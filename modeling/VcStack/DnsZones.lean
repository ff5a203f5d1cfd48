import VcStack.Idempotency
import VcStack.KeyedTables
import VcStack.NetAddresses

/-!
The zones and record sets of internal/management/dns/service.go. Bodies are well
formed JSON. A write whose error is looked at may fail, as its argument says; one
whose error is ignored succeeds. Creation and update times, shared_with and
transferred_at are left out, no handler modelled here reads them.
-/

namespace VcStack.DnsZones

open KeyedTables NetAddresses Runs Text
open Idempotency (trimSpace)

inductive Status where
  | active | pending | error | deleted
deriving DecidableEq, Repr

inductive Change where
  | create | update | delete | none
deriving DecidableEq, Repr

inductive ZoneType where
  | primary | secondary
deriving DecidableEq, Repr

inductive RecordType where
  | a | aaaa | cname | mx | txt | srv | ns | ptr | spf | sshfp | soa
deriving DecidableEq, Repr

def RecordType.text : RecordType → String
  | .a => "A"
  | .aaaa => "AAAA"
  | .cname => "CNAME"
  | .mx => "MX"
  | .txt => "TXT"
  | .srv => "SRV"
  | .ns => "NS"
  | .ptr => "PTR"
  | .spf => "SPF"
  | .sshfp => "SSHFP"
  | .soa => "SOA"

def validRecordTypes : List RecordType :=
  [.a, .aaaa, .cname, .mx, .txt, .srv, .ns, .ptr, .spf, .sshfp, .soa]

def RecordType.ofText (text : String) : Option RecordType :=
  validRecordTypes.find? (·.text == text)

structure Zone where
  id : String
  name : String
  type : ZoneType := .primary
  email : String := ""
  description : String := ""
  ttl : Int := 3600
  serial : Int := 1
  status : Status := .active
  action : Change := .none
  version : Int := 1
  projectID : String := ""
  masters : String := ""
deriving DecidableEq, Repr

structure RecordSet where
  id : String
  zoneID : String
  zoneName : String
  name : String
  type : RecordType
  records : String
  ttl : Option Int := none
  priority : Int := 0
  weight : Int := 0
  port : Int := 0
  description : String := ""
  status : Status := .active
  action : Change := .none
  projectID : String := ""
deriving DecidableEq, Repr

structure State where
  zones : Table Zone.id := ⟨[], List.nodup_nil⟩
  recordSets : Table RecordSet.id := ⟨[], List.nodup_nil⟩

structure CreateZoneRequest where
  name : String
  type : String := ""
  email : String := ""
  description : String := ""
  ttl : Int := 0
  masters : String := ""
deriving DecidableEq, Repr

structure UpdateZoneRequest where
  email : String := ""
  description : String := ""
  ttl : Int := 0
deriving DecidableEq, Repr

structure CreateRecordSetRequest where
  name : String
  type : String
  records : String
  ttl : Option Int := none
  priority : Int := 0
  weight : Int := 0
  port : Int := 0
  description : String := ""
deriving DecidableEq, Repr

structure UpdateRecordSetRequest where
  records : String := ""
  ttl : Option Int := none
  priority : Int := 0
  weight : Int := 0
  port : Int := 0
  description : String := ""
deriving DecidableEq, Repr

/-- The errors of pkg/errors with their arguments; the text of a binding error is
left out. -/
inductive Failure where
  | validation
  | invalidParam (field detail : String)
  | notFound (resourceType identifier : String)
  | alreadyExists (resourceType name : String)
  | resourceProtected (resourceType detail : String)
  | database (operation : String)
deriving DecidableEq, Repr

/-- What the service uses of the Go library: strings.ToUpper, the quoting of a
text by fmt, and the order in which a map is gone through. -/
structure Library where
  toUpper : String → String
  quote : String → String
  supportedTypes : List String

def State.zone (state : State) (zoneID : String) : Option Zone :=
  (state.zones.find zoneID).filter (·.status ≠ .deleted)

def State.recordSet (state : State) (rsID zoneID : String) : Option RecordSet :=
  (state.recordSets.find rsID).filter fun rs => rs.zoneID = zoneID ∧ rs.status ≠ .deleted

def State.existing (state : State) (zoneID name : String) (type : RecordType) : List RecordSet :=
  state.recordSets.rows.filter fun rs =>
    rs.zoneID = zoneID ∧ rs.name = name ∧ rs.type = type ∧ rs.status ≠ .deleted

def State.create (state : State) (rs : RecordSet) : Option State :=
  if fresh : rs.id ∉ state.recordSets.rows.map RecordSet.id then
    some {state with recordSets := state.recordSets.insert rs fresh}
  else none

def Zone.raised (zone : Zone) : Zone := {zone with serial := zone.serial + 1}

def State.raiseSerial (state : State) (zoneID : String) : State :=
  {state with zones := state.zones.update zoneID Zone.raised fun _ => rfl}

def Zone.raisedAndDone (zone : Zone) : Zone := {zone with serial := zone.serial + 1, action := .none}

def State.raiseSerialDone (state : State) (zoneID : String) : State :=
  {state with zones := state.zones.update zoneID Zone.raisedAndDone fun _ => rfl}

def Zone.done (zone : Zone) : Zone := {zone with action := .none}

def State.zoneDone (state : State) (zoneID : String) : State :=
  {state with zones := state.zones.update zoneID Zone.done fun _ => rfl}

def RecordSet.done (rs : RecordSet) : RecordSet := {rs with action := .none}

def State.recordDone (state : State) (rsID : String) : State :=
  {state with recordSets := state.recordSets.update rsID RecordSet.done fun _ => rfl}

def isLabelChar (char : Char) : Bool := char.isAlphanum || char == '-'

def isLabel (label : List Char) : Bool :=
  label.all isLabelChar && label.head?.any Char.isAlphanum && label.getLast?.any Char.isAlphanum

def trimSuffix (text tail : String) : String :=
  if hasSuffix text tail then String.ofList (text.toList.take (text.length - tail.length)) else text

def isValidDomainName (name : String) : Bool :=
  if name.utf8ByteSize = 0 ∨ 253 < name.utf8ByteSize then false
  else ((trimSuffix name ".").toList.splitOn '.').all isLabel

def split (text : String) : List String := (text.toList.splitOn ',').map String.ofList

section Handlers

variable (lib : Library)

def validateValue (rType : RecordType) (value : String) : Except String Unit :=
  let v := trimSpace value
  if v = "" then .error "empty record value"
  else match rType with
    | .a =>
      if (parseIP v).any is4 then .ok ()
      else .error (lib.quote v ++ " is not a valid IPv4 address")
    | .aaaa =>
      if (parseIP v).any fun ip => !is4 ip then .ok ()
      else .error (lib.quote v ++ " is not a valid IPv6 address")
    | _ => .ok ()

def validateRecordData (rType : RecordType) (records : String) : Except String Unit :=
  (split records).forM (validateValue lib rType)

def recordName (name zoneName : String) : String :=
  if name = "@" then zoneName
  else if !hasSuffix name "." then name ++ "." ++ zoneName
  else name

def zoneName (name : String) : String := trimSuffix name "." ++ "."

/-- `strings.Replace(email, "@", ".", 1)` -/
def replaceAt (email : String) : String :=
  match cutString '@' email with
  | some (left, right) => left ++ "." ++ right
  | none => email

def soaEmail (email name : String) : String :=
  if email = "" then "admin." ++ name
  else
    let email := replaceAt email
    if !hasSuffix email "." then email ++ "." else email

def soaData (name email : String) (serial : Int) : String :=
  "ns1." ++ name ++ " " ++ soaEmail email name ++ " " ++ toString serial ++ " 3600 600 604800 60"

structure Drawn where
  zoneID : String
  soaID : String
  nsID : String
  serial : Int
deriving DecidableEq, Repr

def zoneTypeOf (text : String) : Option ZoneType :=
  let zoneType := lib.toUpper text
  if zoneType = "" ∨ zoneType = "PRIMARY" then some .primary
  else if zoneType = "SECONDARY" then some .secondary
  else none

def newZone (req : CreateZoneRequest) (zoneType : ZoneType) (drawn : Drawn) (projectID : String) :
    Zone where
  id := drawn.zoneID
  name := zoneName req.name
  type := zoneType
  email := req.email
  description := req.description
  ttl := if req.ttl ≤ 0 then 3600 else req.ttl
  serial := drawn.serial
  status := .active
  action := .create
  version := 1
  projectID := projectID
  masters := req.masters

def soaRecord (zone : Zone) (drawn : Drawn) : RecordSet where
  id := drawn.soaID
  zoneID := zone.id
  zoneName := zone.name
  name := zone.name
  type := .soa
  records := soaData zone.name zone.email drawn.serial
  status := .active
  action := .create
  projectID := zone.projectID

def nsRecord (zone : Zone) (drawn : Drawn) : RecordSet where
  id := drawn.nsID
  zoneID := zone.id
  zoneName := zone.name
  name := zone.name
  type := .ns
  records := "ns1." ++ zone.name
  status := .active
  action := .create
  projectID := zone.projectID

def defaults (zone : Zone) (drawn : Drawn) : List RecordSet :=
  [soaRecord zone drawn, nsRecord zone drawn]

def State.createDefault (state : State) (rs : RecordSet) : State := (state.create rs).getD state

def createZone (state : State) (req : CreateZoneRequest) (drawn : Drawn) (projectID : String)
    (stores : Bool) : Except Failure Zone × State :=
  if req.name = "" then (.error .validation, state)
  else if !isValidDomainName req.name then
    (.error (.invalidParam "name" "must be a valid domain name"), state)
  else match zoneTypeOf lib req.type with
    | none => (.error (.invalidParam "type" "must be PRIMARY or SECONDARY"), state)
    | some zoneType =>
      let zone := newZone req zoneType drawn projectID
      if !stores then (.error (.database "create DNS zone"), state)
      else if fresh : zone.id ∉ state.zones.rows.map Zone.id then
        if zone.name ∈ state.zones.rows.map Zone.name then
          (.error (.alreadyExists "DNS zone" req.name), state)
        else
          let state := {state with zones := state.zones.insert zone fresh}
          let state := (defaults zone drawn).foldl State.createDefault state
          (.ok {zone with action := .none}, state.zoneDone zone.id)
      else (.error (.alreadyExists "DNS zone" req.name), state)

/-- The columns in `updates`; serial and version come from the row that was read. -/
def UpdateZoneRequest.apply (req : UpdateZoneRequest) (read zone : Zone) : Zone :=
  {zone with
    serial := read.serial + 1
    version := read.version + 1
    action := .update
    email := if req.email = "" then zone.email else req.email
    description := if req.description = "" then zone.description else req.description
    ttl := if req.ttl > 0 then req.ttl else zone.ttl}

def State.updateZone (state : State) (read : Zone) (req : UpdateZoneRequest) : State :=
  {state with zones := state.zones.update read.id (req.apply read) fun _ => rfl}

def updateZone (state : State) (zoneID : String) (req : UpdateZoneRequest) (stores : Bool) :
    Except Failure Zone × State :=
  match state.zone zoneID with
  | none => (.error (.notFound "DNS zone" zoneID), state)
  | some zone =>
    if !stores then (.error (.database "update DNS zone"), state)
    else
      let after := (state.updateZone zone req).zoneDone zone.id
      (.ok ((after.zones.find zoneID).getD zone), after)

def RecordSet.deleted (rs : RecordSet) : RecordSet := {rs with status := .deleted, action := .delete}

def RecordSet.deletedWith (zoneID : String) (rs : RecordSet) : RecordSet :=
  if rs.zoneID = zoneID then rs.deleted else rs

theorem deleted_with_id (zoneID : String) (rs : RecordSet) : (rs.deletedWith zoneID).id = rs.id := by
  unfold RecordSet.deletedWith
  split_ifs <;> rfl

def Zone.deleted (zone : Zone) : Zone := {zone with status := .deleted, action := .delete}

def deleteZone (state : State) (zoneID : String) : Except Failure Zone × State :=
  match state.zone zoneID with
  | none => (.error (.notFound "DNS zone" zoneID), state)
  | some zone =>
    (.ok zone.deleted, {
      recordSets := state.recordSets.change (RecordSet.deletedWith zoneID) (deleted_with_id zoneID)
      zones := state.zones.update zone.id Zone.deleted fun _ => rfl })

def newRecordSet (zone : Zone) (zoneID : String) (req : CreateRecordSetRequest)
    (id projectID : String) : Except Failure RecordSet :=
  if req.name = "" ∨ req.type = "" ∨ req.records = "" then .error .validation
  else match RecordType.ofText (lib.toUpper req.type) with
    | none =>
      .error (.invalidParam "type" ("must be one of: " ++ ", ".intercalate lib.supportedTypes))
    | some rType =>
      match validateRecordData lib rType req.records with
      | .error error => .error (.invalidParam "records" error)
      | .ok () => .ok {
          id := id
          zoneID := zoneID
          zoneName := zone.name
          name := recordName req.name zone.name
          type := rType
          records := req.records
          ttl := req.ttl
          priority := req.priority
          weight := req.weight
          port := req.port
          description := req.description
          status := .active
          action := .create
          projectID := projectID }

def createRecordSet (state : State) (zoneID : String) (req : CreateRecordSetRequest)
    (id projectID : String) (stores : Bool) : Except Failure RecordSet × State :=
  match state.zone zoneID with
  | none => (.error (.notFound "DNS zone" zoneID), state)
  | some zone =>
    match newRecordSet lib zone zoneID req id projectID with
    | .error failure => (.error failure, state)
    | .ok rs =>
      if 0 < (state.existing zoneID rs.name rs.type).length then
        (.error (.alreadyExists "DNS record" (rs.name ++ " " ++ rs.type.text)), state)
      else match if stores then state.create rs else none with
        | none => (.error (.database "create DNS record"), state)
        | some state => (.ok rs.done, (state.raiseSerialDone zoneID).recordDone rs.id)

/-- The columns in `updates`; weight and port of the request are not among them. -/
def UpdateRecordSetRequest.apply (req : UpdateRecordSetRequest) (rs : RecordSet) : RecordSet :=
  {rs with
    records := if req.records = "" then rs.records else req.records
    ttl := req.ttl.or rs.ttl
    priority := if req.priority > 0 then req.priority else rs.priority
    description := if req.description = "" then rs.description else req.description
    action := .update}

def State.updateRecord (state : State) (rsID : String) (req : UpdateRecordSetRequest) : State :=
  {state with recordSets := state.recordSets.update rsID req.apply fun _ => rfl}

def checkRecords (rs : RecordSet) (req : UpdateRecordSetRequest) : Except String Unit :=
  if req.records = "" then .ok () else validateRecordData lib rs.type req.records

def updateRecordSet (state : State) (zoneID rsID : String) (req : UpdateRecordSetRequest)
    (stores : Bool) : Except Failure RecordSet × State :=
  match state.recordSet rsID zoneID with
  | none => (.error (.notFound "DNS record" rsID), state)
  | some rs =>
    match checkRecords lib rs req with
    | .error error => (.error (.invalidParam "records" error), state)
    | .ok () =>
      if !stores then (.error (.database "update DNS record"), state)
      else
        let after := ((state.updateRecord rs.id req).raiseSerial zoneID).recordDone rs.id
        (.ok ((after.recordSets.find rsID).getD rs), after)

def State.deleteRecord (state : State) (rsID : String) : State :=
  {state with recordSets := state.recordSets.update rsID RecordSet.deleted fun _ => rfl}

/-- The SOA and NS records at the zone apex. A zone that is not found stays the
zero value, with the empty name. -/
def apexProtected (zone : Option Zone) (rs : RecordSet) : Bool :=
  rs.name == (zone.map (·.name)).getD "" && (rs.type == .soa || rs.type == .ns)

def deleteRecordSet (state : State) (zoneID rsID : String) : Except Failure RecordSet × State :=
  match state.recordSet rsID zoneID with
  | none => (.error (.notFound "DNS record" rsID), state)
  | some rs =>
    if apexProtected (state.zones.find zoneID) rs then
      (.error (.resourceProtected "DNS record"
        "SOA and NS records at zone apex cannot be deleted"), state)
    else (.ok rs.deleted, (state.deleteRecord rs.id).raiseSerial zoneID)

structure Imported where
  req : CreateRecordSetRequest
  id : String
  fails : Option String := none
deriving DecidableEq, Repr

structure Tally where
  created : Nat := 0
  skipped : Nat := 0
  failed : Nat := 0
  errors : List String := []
deriving DecidableEq, Repr

/-- Neither the records nor the other fields are checked; weight and port are dropped. -/
def importedRecordSet (zone : Zone) (zoneID projectID : String) (item : Imported) :
    Option RecordSet :=
  (RecordType.ofText (lib.toUpper item.req.type)).map fun rType => {
    id := item.id
    zoneID := zoneID
    zoneName := zone.name
    name := recordName item.req.name zone.name
    type := rType
    records := item.req.records
    ttl := item.req.ttl
    priority := item.req.priority
    description := item.req.description
    status := .active
    action := .none
    projectID := projectID }

def Tally.invalidType (tally : Tally) (item : Imported) : Tally :=
  {tally with
    skipped := tally.skipped + 1
    errors := tally.errors ++ [item.req.name ++ " " ++ item.req.type ++ ": invalid type"]}

def Tally.skip (tally : Tally) : Tally := {tally with skipped := tally.skipped + 1}

structure Import where
  state : State
  tally : Tally := {}

def storeImported (so : Import) (item : Imported) (rs : RecordSet) : Import :=
  match item.fails, so.state.create rs with
  | none, some state => ⟨state, {so.tally with created := so.tally.created + 1}⟩
  | fails, _ => {so with tally := {so.tally with
      failed := so.tally.failed + 1
      errors := so.tally.errors ++ [item.req.name ++ " " ++ rs.type.text ++ ": " ++
        fails.getD "UNIQUE constraint failed"]}}

def importRecord (zone : Zone) (zoneID projectID : String) (so : Import) (item : Imported) :
    Import :=
  match importedRecordSet lib zone zoneID projectID item with
  | none => {so with tally := so.tally.invalidType item}
  | some rs =>
    if 0 < (so.state.existing zoneID rs.name rs.type).length then {so with tally := so.tally.skip}
    else storeImported so item rs

/-- A body without records does not bind; their elements are not validated. -/
def importRecords (state : State) (zoneID : String) (records : Option (List Imported))
    (projectID : String) : Except Failure Tally × State :=
  match state.zone zoneID with
  | none => (.error (.notFound "DNS zone" zoneID), state)
  | some zone =>
    match records with
    | none => (.error .validation, state)
    | some items =>
      let done := items.foldl (importRecord lib zone zoneID projectID) {state := state}
      (.ok done.tally, done.state.raiseSerial zoneID)

inductive Action where
  | createZone (req : CreateZoneRequest) (drawn : Drawn) (projectID : String) (stores : Bool)
  | updateZone (zoneID : String) (req : UpdateZoneRequest) (stores : Bool)
  | deleteZone (zoneID : String)
  | createRecordSet (zoneID : String) (req : CreateRecordSetRequest) (id projectID : String)
      (stores : Bool)
  | updateRecordSet (zoneID rsID : String) (req : UpdateRecordSetRequest) (stores : Bool)
  | deleteRecordSet (zoneID rsID : String)
  | importRecords (zoneID : String) (records : Option (List Imported)) (projectID : String)
deriving DecidableEq, Repr

def handle (state : State) : Action → State
  | .createZone req drawn projectID stores => (createZone lib state req drawn projectID stores).2
  | .updateZone zoneID req stores => (updateZone state zoneID req stores).2
  | .deleteZone zoneID => (deleteZone state zoneID).2
  | .createRecordSet zoneID req id projectID stores =>
    (createRecordSet lib state zoneID req id projectID stores).2
  | .updateRecordSet zoneID rsID req stores => (updateRecordSet lib state zoneID rsID req stores).2
  | .deleteRecordSet zoneID rsID => (deleteRecordSet state zoneID rsID).2
  | .importRecords zoneID records projectID => (importRecords lib state zoneID records projectID).2

def step (state : State) (action : Action) : Option State := some (handle lib state action)

end Handlers

end VcStack.DnsZones

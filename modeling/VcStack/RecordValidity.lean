import VcStack.DnsZones

/-!
The record sets of a zone as the handlers leave them: in the zone, with records
of their type, and one for each name and type.
-/

namespace VcStack.RecordValidity

open KeyedTables Runs Text DnsZones

variable (lib : Library)

def InZone (name zoneName : String) : Prop := name = zoneName ∨ hasSuffix name ("." ++ zoneName) = true

def Accepted (rs : RecordSet) : Prop := (validateRecordData lib rs.type rs.records).isOk = true

def Valid (state : State) : Prop :=
  ∀ zone ∈ state.zones.rows, ∀ rs ∈ state.recordSets.rows, rs.zoneID = zone.id →
    rs.status ≠ .deleted → InZone rs.name zone.name ∧ Accepted lib rs ∧
      ∀ other ∈ state.recordSets.rows, other.zoneID = zone.id → other.status ≠ .deleted →
        other.name = rs.name → other.type = rs.type → other.id = rs.id

instance (name zoneName : String) : Decidable (InZone name zoneName) :=
  inferInstanceAs (Decidable (_ ∨ _))

instance (rs : RecordSet) : Decidable (Accepted lib rs) := inferInstanceAs (Decidable (_ = _))

instance (state : State) : Decidable (Valid lib state) :=
  inferInstanceAs (Decidable (∀ zone ∈ state.zones.rows, ∀ rs ∈ state.recordSets.rows, _))

def Owned (state : State) : Prop :=
  ∀ rs ∈ state.recordSets.rows, rs.zoneID ∈ state.zones.rows.map Zone.id

structure Sound (state : State) : Prop where
  valid : Valid lib state
  owned : Owned state

def SameZone (left right : Zone) : Prop := left.id = right.id ∧ left.name = right.name

structure Covers (old new : RecordSet) : Prop where
  id : old.id = new.id
  zoneID : old.zoneID = new.zoneID
  name : old.name = new.name
  type : old.type = new.type
  live : new.status ≠ .deleted → old.status ≠ .deleted
  accepted : new.status ≠ .deleted → Accepted lib old → Accepted lib new

variable (state : State)

variable {lib}

theorem valid_of_covered (next : State)
    (zones : ∀ zone ∈ next.zones.rows, ∃ old ∈ state.zones.rows, SameZone old zone)
    (records : ∀ rs ∈ next.recordSets.rows, ∃ old ∈ state.recordSets.rows, Covers lib old rs)
    (valid : Valid lib state) : Valid lib next := by
  intro zone listed rs member owner live
  obtain ⟨oldZone, oldListed, sameID, sameName⟩ := zones zone listed
  obtain ⟨old, there, covers⟩ := records rs member
  obtain ⟨inside, accepted, single⟩ := valid oldZone oldListed old there
    (by rw [covers.zoneID, owner, sameID]) (covers.live live)
  refine ⟨?_, covers.accepted live accepted, ?_⟩
  · rw [← covers.name, ← sameName]
    exact inside
  · intro other listed otherOwner otherLive name type
    obtain ⟨before, beforeThere, beforeCovers⟩ := records other listed
    rw [← beforeCovers.id, ← covers.id]
    apply single before beforeThere
    · rw [beforeCovers.zoneID, otherOwner, sameID]
    · exact beforeCovers.live otherLive
    · rw [beforeCovers.name, name, covers.name]
    · rw [beforeCovers.type, type, covers.type]

theorem same_zones {zones : List Zone} : ∀ zone ∈ zones, ∃ old ∈ zones, SameZone old zone :=
  fun zone listed => ⟨zone, listed, rfl, rfl⟩

theorem covers_refl {rs : RecordSet} : Covers lib rs rs := ⟨rfl, rfl, rfl, rfl, id, fun _ => id⟩

theorem same_records {records : List RecordSet} :
    ∀ rs ∈ records, ∃ old ∈ records, Covers lib old rs :=
  fun rs member => ⟨rs, member, covers_refl⟩

variable {state}

theorem valid_zone_update_iff {zoneID : String} (change : Zone → Zone)
    (keeps : ∀ zone, (change zone).id = zone.id) (named : ∀ zone, (change zone).name = zone.name) :
    Valid lib {state with zones := state.zones.update zoneID change keeps} ↔ Valid lib state := by
  have same (zone : Zone) : SameZone zone (if zone.id = zoneID then change zone else zone) := by
    split_ifs
    · exact ⟨(keeps zone).symm, (named zone).symm⟩
    · exact ⟨rfl, rfl⟩
  constructor
  · apply valid_of_covered
    · intro zone listed
      exact ⟨_, List.mem_map_of_mem listed, (same zone).1.symm, (same zone).2.symm⟩
    · exact same_records
  · apply valid_of_covered
    · intro zone listed
      obtain ⟨old, there, rfl⟩ := List.mem_map.mp listed
      exact ⟨old, there, same old⟩
    · exact same_records

variable {change : RecordSet → RecordSet} {rsID name : String} {next : State} {stores : Bool}
  {items : List Imported}

theorem valid_record_change (keeps : ∀ rs, (change rs).id = rs.id)
    (covers : ∀ rs ∈ state.recordSets.rows, Covers lib rs (change rs)) (valid : Valid lib state) :
    Valid lib {state with recordSets := state.recordSets.change change keeps} := by
  apply valid_of_covered state
  · exact same_zones
  · intro rs member
    obtain ⟨old, there, rfl⟩ := List.mem_map.mp member
    exact ⟨old, there, covers old there⟩
  · exact valid

theorem valid_record_done_iff :
    Valid lib (state.recordDone rsID) ↔ Valid lib state := by
  have same (rs : RecordSet) : Covers lib rs (if rs.id = rsID then rs.done else rs) ∧
      Covers lib (if rs.id = rsID then rs.done else rs) rs := by
    split_ifs
    · exact ⟨⟨rfl, rfl, rfl, rfl, id, fun _ => id⟩, ⟨rfl, rfl, rfl, rfl, id, fun _ => id⟩⟩
    · exact ⟨covers_refl, covers_refl⟩
  constructor
  · apply valid_of_covered
    · exact same_zones
    · intro rs member
      exact ⟨_, List.mem_map_of_mem member, (same rs).2⟩
  · exact valid_record_change _ fun rs _ => (same rs).1

theorem create_rows {rs : RecordSet} (created : state.create rs = some next) :
    next.zones = state.zones ∧ next.recordSets.rows = state.recordSets.rows ++ [rs] := by
  unfold State.create at created
  split_ifs at created
  cases created
  exact ⟨rfl, rfl⟩

variable (lib)

theorem valid_create_iff {rs : RecordSet} {zone : Zone}
    (created : state.create rs = some next) (listed : zone ∈ state.zones.rows)
    (owner : rs.zoneID = zone.id) (live : rs.status ≠ .deleted)
    (single : state.existing zone.id rs.name rs.type = []) :
    Valid lib next ↔ Valid lib state ∧ InZone rs.name zone.name ∧ Accepted lib rs := by
  obtain ⟨zones, rows⟩ := create_rows created
  have others : ∀ other ∈ state.recordSets.rows, other.zoneID = zone.id → other.status ≠ .deleted →
      other.name = rs.name → other.type ≠ rs.type := by
    intro other member otherOwner otherLive name type
    have absent := List.filter_eq_nil_iff.mp single other member
    simp [otherOwner, name, type, otherLive] at absent
  constructor
  · intro valid
    have last : rs ∈ next.recordSets.rows := by
      rw [rows]
      exact List.mem_append_right _ List.mem_cons_self
    have there : zone ∈ next.zones.rows := by rwa [zones]
    obtain ⟨inside, accepted, _⟩ := valid zone there rs last owner live
    refine ⟨?_, inside, accepted⟩
    apply valid_of_covered next
    · rw [zones]
      exact same_zones
    · rw [rows]
      exact fun other member => ⟨other, List.mem_append_left _ member, covers_refl⟩
    · exact valid
  · rintro ⟨valid, inside, accepted⟩
    intro owned ownedListed left leftMember leftOwner leftLive
    rw [zones] at ownedListed
    rw [rows] at leftMember ⊢
    have same (left : RecordSet) (there : left ∈ [rs]) (leftOwner : left.zoneID = owned.id) :
        left = rs ∧ owned = zone := by
      have equal := List.mem_singleton.mp there
      refine ⟨equal, List.inj_on_of_nodup_map state.zones.distinct ownedListed listed ?_⟩
      rw [← leftOwner, equal, owner]
    rcases List.mem_append.mp leftMember with old | new
    · obtain ⟨leftInside, leftAccepted, leftSingle⟩ := valid owned ownedListed left old leftOwner leftLive
      refine ⟨leftInside, leftAccepted, ?_⟩
      intro other member otherOwner otherLive name type
      rcases List.mem_append.mp member with before | last
      · exact leftSingle other before otherOwner otherLive name type
      · obtain ⟨rfl, rfl⟩ := same other last otherOwner
        exact absurd type.symm (others left old leftOwner leftLive name.symm)
    · obtain ⟨rfl, rfl⟩ := same left new leftOwner
      refine ⟨inside, accepted, ?_⟩
      intro other member otherOwner otherLive name type
      rcases List.mem_append.mp member with before | last
      · exact absurd type (others other before otherOwner otherLive name)
      · rw [List.mem_singleton.mp last]

theorem zone_found {zoneID : String} {zone : Zone} (found : state.zone zoneID = some zone) :
    zone ∈ state.zones.rows ∧ zone.id = zoneID :=
  (find_iff _).mp (Option.filter_eq_some_iff.mp found).1

theorem record_name_in_zone_iff {zoneName : String} :
    InZone (recordName name zoneName) zoneName ↔
      (hasSuffix name "." = true → InZone name zoneName) := by
  unfold recordName
  by_cases apex : name = "@"
  · have relative : hasSuffix "@" "." = false := by decide
    subst apex
    simp [InZone, relative]
  · rw [if_neg apex]
    by_cases absolute : hasSuffix name "." = true
    · simp [absolute]
    · have joined : hasSuffix (name ++ "." ++ zoneName) ("." ++ zoneName) = true := by
        have shape : (name ++ "." ++ zoneName).toList = name.toList ++ ("." ++ zoneName).toList := by
          simp
        rw [hasSuffix, List.isSuffixOf_iff_suffix, shape]
        exact List.suffix_append _ _
      simp [absolute, InZone, joined]

theorem new_record_set {zone : Zone} {zoneID : String} {req : CreateRecordSetRequest}
    {id projectID : String} {rs : RecordSet}
    (checked : newRecordSet lib zone zoneID req id projectID = .ok rs) :
    rs.zoneID = zoneID ∧ rs.zoneName = zone.name ∧ rs.name = recordName req.name zone.name ∧
      rs.status = .active ∧ Accepted lib rs := by
  unfold newRecordSet at checked
  split_ifs at checked
  split at checked
  · contradiction
  · split at checked
    · contradiction
    · rename_i accepted
      cases checked
      exact ⟨rfl, rfl, rfl, rfl, by rw [Accepted, accepted]; rfl⟩

def Free (state : State) (zoneID : String) (rs : RecordSet) : Prop :=
  state.existing zoneID rs.name rs.type = [] ∧ rs.id ∉ state.recordSets.rows.map RecordSet.id

theorem create_none_iff {rs : RecordSet} :
    state.create rs = none ↔ rs.id ∈ state.recordSets.rows.map RecordSet.id := by
  unfold State.create
  split_ifs with taken
  · exact iff_of_true rfl taken
  · exact iff_of_false (by simp) taken

/-- createRecordSet keeps the record sets valid when it creates none with an
absolute name outside the zone. -/
theorem create_record_set_iff {zoneID : String} {req : CreateRecordSetRequest}
    {id projectID : String} :
    Valid lib (createRecordSet lib state zoneID req id projectID stores).2 ↔
      Valid lib state ∧ ∀ zone, state.zone zoneID = some zone → ∀ rs,
        newRecordSet lib zone zoneID req id projectID = .ok rs → stores = true →
        Free state zoneID rs → hasSuffix req.name "." = true → InZone req.name zone.name := by
  unfold createRecordSet
  split
  · rename_i missing
    simp [missing]
  · rename_i zone found
    split
    · rename_i refused
      simp [found, refused]
    · rename_i rs checked
      split_ifs with present stored
      · have other : state.existing zoneID rs.name rs.type ≠ [] := List.ne_nil_of_length_pos present
        simp [found, checked, Free, other]
      · have single : state.existing zoneID rs.name rs.type = [] :=
          List.eq_nil_of_length_eq_zero (Nat.eq_zero_of_not_pos present)
        cases created : state.create rs with
        | none =>
          refine (and_iff_left fun other same rs' made _ free => ?_).symm
          cases found.symm.trans same
          cases checked.symm.trans made
          exact absurd (create_none_iff.mp created) free.2
        | some next =>
          have fresh : rs.id ∉ state.recordSets.rows.map RecordSet.id := fun taken => by
            rw [create_none_iff.mpr taken] at created
            contradiction
          have free : Free state zoneID rs := ⟨single, fresh⟩
          obtain ⟨owner, _, name, status, accepted⟩ := new_record_set lib checked
          obtain ⟨listed, same⟩ := zone_found found
          subst same
          have written := valid_create_iff lib created listed owner (by rw [status]; decide) single
          rw [name, record_name_in_zone_iff] at written
          rw [valid_record_done_iff, State.raiseSerialDone,
            valid_zone_update_iff Zone.raisedAndDone (fun _ => rfl) (fun _ => rfl),
            written]
          simp [found, checked, stored, free, accepted]
      · simp [stored]

section Import

variable (zone : Zone) (zoneID projectID : String)

def importStep (so : Import) (item : Imported) : Option Import :=
  some (importRecord lib zone zoneID projectID so item)

def ImportChecked (so : Import) (item : Imported) : Prop :=
  ∀ rs, importedRecordSet lib zone zoneID projectID item = some rs → item.fails = none →
    Free so.state zoneID rs →
      (hasSuffix item.req.name "." = true → InZone item.req.name zone.name) ∧ Accepted lib rs

theorem store_imported_cases (so : Import) (item : Imported) (rs : RecordSet) :
    (∃ next, so.state.create rs = some next ∧ (storeImported so item rs).state = next ∧
      item.fails = none ∧ rs.id ∉ so.state.recordSets.rows.map RecordSet.id) ∨
    (storeImported so item rs).state = so.state ∧
      (item.fails = none → rs.id ∈ so.state.recordSets.rows.map RecordSet.id) := by
  unfold storeImported
  cases fails : item.fails with
  | some error => exact Or.inr ⟨rfl, fun none => by contradiction⟩
  | none =>
    cases created : so.state.create rs with
    | none => exact Or.inr ⟨rfl, fun _ => create_none_iff.mp created⟩
    | some next =>
      refine Or.inl ⟨next, rfl, rfl, rfl, fun taken => ?_⟩
      rw [create_none_iff.mpr taken] at created
      contradiction

theorem imported_record_set {item : Imported} {rs : RecordSet}
    (imported : importedRecordSet lib zone zoneID projectID item = some rs) :
    rs.zoneID = zoneID ∧ rs.name = recordName item.req.name zone.name ∧ rs.status = .active := by
  obtain ⟨rType, known, rfl⟩ := Option.map_eq_some_iff.mp imported
  exact ⟨rfl, rfl, rfl⟩

theorem import_record_iff {so : Import} (item : Imported) (listed : zone ∈ so.state.zones.rows)
    (same : zone.id = zoneID) :
    Valid lib (importRecord lib zone zoneID projectID so item).state ↔
      Valid lib so.state ∧ ImportChecked lib zone zoneID projectID so item := by
  unfold ImportChecked importRecord
  cases imported : importedRecordSet lib zone zoneID projectID item with
  | none => simp
  | some rs =>
    obtain ⟨owner, name, status⟩ := imported_record_set lib zone zoneID projectID imported
    dsimp only
    split_ifs with present
    · have other : so.state.existing zoneID rs.name rs.type ≠ [] :=
        List.ne_nil_of_length_pos present
      simp [Free, other]
    · have single := List.eq_nil_of_length_eq_zero (Nat.eq_zero_of_not_pos present)
      rcases store_imported_cases so item rs with ⟨next, created, state, kept, fresh⟩ | ⟨state, lost⟩
      · subst same
        have free : Free so.state zone.id rs := ⟨single, fresh⟩
        have written := valid_create_iff lib created listed owner (by rw [status]; decide) single
        rw [name, record_name_in_zone_iff] at written
        rw [state, written]
        simp [kept, free]
      · rw [state]
        refine (and_iff_left ?_).symm
        intro other same kept free
        cases same
        exact absurd (lost kept) free.2

theorem import_record_zones {so : Import} {item : Imported} :
    (importRecord lib zone zoneID projectID so item).state.zones = so.state.zones := by
  unfold importRecord
  split
  · rfl
  · split_ifs
    · rfl
    · rename_i rs _ _
      rcases store_imported_cases so item rs with ⟨next, created, state, _⟩ | ⟨state, _⟩
      · rw [state]
        exact (create_rows created).1
      · rw [state]

theorem import_loop_valid (so : Import)
    (listed : zone ∈ so.state.zones.rows) (same : zone.id = zoneID)
    (valid : Valid lib (items.foldl (importRecord lib zone zoneID projectID) so).state) :
    Valid lib so.state := by
  induction items generalizing so with
  | nil => exact valid
  | cons item rest ih =>
    have later := ih (importRecord lib zone zoneID projectID so item)
      (by rwa [import_record_zones]) valid
    exact ((import_record_iff lib zone zoneID projectID item listed same).mp later).1

theorem import_loop_iff (so : Import) (listed : zone ∈ so.state.zones.rows)
    (same : zone.id = zoneID) (valid : Valid lib so.state) :
    Valid lib (items.foldl (importRecord lib zone zoneID projectID) so).state ↔
      Guarded (importStep lib zone zoneID projectID) (ImportChecked lib zone zoneID projectID)
        so items := by
  induction items generalizing so with
  | nil => exact iff_of_true valid trivial
  | cons item rest ih =>
    have round := import_record_iff lib zone zoneID projectID item listed same
    have still : zone ∈ (importRecord lib zone zoneID projectID so item).state.zones.rows := by
      rwa [import_record_zones]
    rw [List.foldl_cons]
    constructor
    · intro after
      have next := import_loop_valid lib zone zoneID projectID _ still same after
      refine ⟨(round.mp next).2, ?_⟩
      intro so taken
      cases taken
      exact (ih _ still next).mp after
    · rintro ⟨checked, onward⟩
      exact (ih _ still (round.mpr ⟨valid, checked⟩)).mpr (onward _ rfl)

end Import

theorem mem_dropWhile {Item : Type} {drops : Item → Bool} {item : Item} {items : List Item}
    (member : item ∈ items) (stays : drops item = false) : item ∈ items.dropWhile drops := by
  induction items with
  | nil => contradiction
  | cons first rest ih =>
    rw [List.dropWhile_cons]
    split_ifs with dropped
    · rcases List.mem_cons.mp member with same | later
      · rw [same, dropped] at stays
        contradiction
      · exact ih later
    · exact member

theorem trim_ne_empty {drops : Char → Bool} {text : String} (char : Char)
    (member : char ∈ text.toList) (stays : drops char = false) : trim drops text ≠ "" := by
  intro empty
  have front := mem_dropWhile member stays
  have back := mem_dropWhile (List.mem_reverse.mpr front) stays
  have chars := congrArg String.toList empty
  rw [trim, String.toList_ofList] at chars
  have none : ((text.toList.dropWhile drops).reverse.dropWhile drops).reverse = [] := chars
  rw [List.reverse_eq_nil_iff] at none
  rw [none] at back
  contradiction

theorem split_single {text : String} (plain : ',' ∉ text.toList) : split text = [text] := by
  have whole : List.splitOn ',' ([','].intercalate [text.toList]) = [text.toList] :=
    List.splitOn_intercalate ',' (fun piece listed => by rwa [List.mem_singleton.mp listed])
      (List.cons_ne_nil _ _)
  rw [List.intercalate_singleton] at whole
  rw [split, whole, List.map_singleton, String.ofList_toList]

theorem domain_name_plain (valid : isValidDomainName name = true) :
    ',' ∉ (zoneName name).toList := by
  unfold isValidDomainName at valid
  split_ifs at valid
  intro comma
  rw [zoneName, String.toList_append, List.mem_append] at comma
  have inside := comma.resolve_right (by decide)
  have whole : ['.'].intercalate ((trimSuffix name ".").toList.splitOn '.') =
      (trimSuffix name ".").toList := List.intercalate_splitOn '.'
  rw [← whole] at inside
  rcases mem_intercalate inside with dot | ⟨label, listed, member⟩
  · exact absurd dot (by decide)
  · have letters := List.all_eq_true.mp valid label listed
    simp only [isLabel, Bool.and_eq_true, List.all_eq_true] at letters
    exact absurd (letters.1.1 ',' member) (by decide)

theorem default_ns_accepted (valid : isValidDomainName name = true) :
    (validateRecordData lib .ns ("ns1." ++ zoneName name)).isOk = true := by
  have plain : ',' ∉ ("ns1." ++ zoneName name).toList := by
    rw [String.toList_append, List.mem_append, not_or]
    exact ⟨by decide, domain_name_plain valid⟩
  have some : Idempotency.trimSpace ("ns1." ++ zoneName name) ≠ "" := by
    apply trim_ne_empty 'n'
    · rw [String.toList_append]
      exact List.mem_append_left _ (by decide)
    · decide
  rw [validateRecordData, split_single plain]
  simp [validateValue, some, List.forM]
  rfl

variable {state : State} (zone : Zone) (zoneID : String) (rs : RecordSet)

theorem valid_insert_zone_iff (fresh : zone.id ∉ state.zones.rows.map Zone.id) (owned : Owned state) :
    Valid lib {state with zones := state.zones.insert zone fresh} ↔ Valid lib state := by
  constructor
  · intro valid other listed
    exact valid other (List.mem_append_left _ listed)
  · intro valid other listed rs member owner
    rcases List.mem_append.mp listed with old | new
    · exact valid other old rs member owner
    · -- No record set belongs to the new zone yet.
      rw [List.mem_singleton.mp new] at owner
      exact absurd (owner ▸ owned rs member) fresh

theorem valid_default_iff {zone : Zone} (listed : zone ∈ state.zones.rows)
    (owner : rs.zoneID = zone.id) (name : rs.name = zone.name) (live : rs.status ≠ .deleted)
    (single : state.existing zone.id rs.name rs.type = []) :
    Valid lib (state.createDefault rs) ↔
      Valid lib state ∧ (rs.id ∉ state.recordSets.rows.map RecordSet.id → Accepted lib rs) := by
  unfold State.createDefault
  cases created : state.create rs with
  | none =>
    have used : ¬ rs.id ∉ state.recordSets.rows.map RecordSet.id := by
      intro fresh
      rw [State.create, dif_pos fresh] at created
      contradiction
    exact ⟨fun valid => ⟨valid, fun fresh => absurd fresh used⟩, And.left⟩
  | some next =>
    have fresh : rs.id ∉ state.recordSets.rows.map RecordSet.id := by
      intro used
      rw [State.create, dif_neg (not_not_intro used)] at created
      contradiction
    have written := valid_create_iff lib created listed owner live single
    rw [Option.getD_some, written, name]
    simp [fresh, InZone]

theorem default_zones :
    (state.createDefault rs).zones = state.zones := by
  unfold State.createDefault
  cases created : state.create rs with
  | none => rfl
  | some next => exact (create_rows created).1

theorem default_rows {other : RecordSet} (member : other ∈ (state.createDefault rs).recordSets.rows) :
    other ∈ state.recordSets.rows ∨ other = rs := by
  unfold State.createDefault at member
  cases created : state.create rs with
  | none =>
    rw [created] at member
    exact Or.inl member
  | some next =>
    rw [created, Option.getD_some, (create_rows created).2] at member
    rcases List.mem_append.mp member with old | new
    · exact Or.inl old
    · exact Or.inr (List.mem_singleton.mp new)

theorem defaults_iff (drawn : Drawn) (fresh : zone.id ∉ state.zones.rows.map Zone.id)
    (owned : Owned state) (ns : (validateRecordData lib .ns ("ns1." ++ zone.name)).isOk = true) :
    Valid lib ((defaults zone drawn).foldl State.createDefault
        {state with zones := state.zones.insert zone fresh}) ↔
      Valid lib state ∧ (drawn.soaID ∉ state.recordSets.rows.map RecordSet.id →
        (validateRecordData lib .soa (soaData zone.name zone.email drawn.serial)).isOk = true) := by
  let first : State := {state with zones := state.zones.insert zone fresh}
  have listed : zone ∈ first.zones.rows := List.mem_append_right _ List.mem_cons_self
  have apart (other : RecordSet) (member : other ∈ state.recordSets.rows) : other.zoneID ≠ zone.id :=
    fun owner => fresh (owner ▸ owned other member)
  have soaSingle : first.existing zone.id zone.name .soa = [] := by
    apply List.filter_eq_nil_iff.mpr
    intro other member
    simp [apart other member]
  have nsSingle : (first.createDefault (soaRecord zone drawn)).existing zone.id zone.name .ns = [] := by
    apply List.filter_eq_nil_iff.mpr
    intro other member
    rcases default_rows _ member with old | rfl
    · simp [apart other old]
    · simp [soaRecord]
  have soaWritten := valid_default_iff lib (soaRecord zone drawn) listed rfl rfl
    (fun deleted => by cases deleted) soaSingle
  have nsWritten := valid_default_iff lib
    (nsRecord zone drawn) (by rwa [default_zones]) rfl rfl (fun deleted => by cases deleted)
    nsSingle
  rw [defaults, List.foldl_cons, List.foldl_cons, List.foldl_nil, nsWritten, soaWritten,
    valid_insert_zone_iff lib zone fresh owned]
  constructor
  · exact And.left
  · exact fun written => ⟨written, fun _ => ns⟩

/-- The request passes the checks of createZone, and its row can be stored. -/
def NewZone (state : State) (req : CreateZoneRequest) (drawn : Drawn) (stores : Bool) : Prop :=
  (req.name ≠ "" ∧ isValidDomainName req.name = true) ∧ (zoneTypeOf lib req.type).isSome = true ∧
    stores = true ∧ drawn.zoneID ∉ state.zones.rows.map Zone.id ∧
    zoneName req.name ∉ state.zones.rows.map Zone.name

/-- createZone keeps the record sets valid when the SOA record is accepted. -/
theorem create_zone_iff {req : CreateZoneRequest} {drawn : Drawn} {projectID : String}
    (owned : Owned state) :
    Valid lib (createZone lib state req drawn projectID stores).2 ↔
      Valid lib state ∧ (NewZone lib state req drawn stores →
        drawn.soaID ∉ state.recordSets.rows.map RecordSet.id →
        (validateRecordData lib .soa
          (soaData (zoneName req.name) req.email drawn.serial)).isOk = true) := by
  unfold createZone NewZone
  cases zoneTypeOf lib req.type with
  | none =>
    dsimp only
    split_ifs <;> simp
  | some zoneType =>
    dsimp only
    split_ifs with unnamed invalid refused fresh taken
    · exact (and_iff_left fun new => absurd unnamed new.1.1).symm
    · exact (and_iff_left fun new => by simp [new.1.2] at invalid).symm
    · exact (and_iff_left fun new => by simp [new.2.2.1] at refused).symm
    · exact (and_iff_left fun new => absurd fresh new.2.2.2.1).symm
    · exact (and_iff_left fun new => absurd taken new.2.2.2.2).symm
    · have domain : isValidDomainName req.name = true := by simpa using invalid
      have stored : stores = true := by simpa using refused
      have written := defaults_iff lib (newZone req zoneType drawn projectID) drawn fresh owned
        (default_ns_accepted lib domain)
      rw [State.zoneDone, valid_zone_update_iff Zone.done (fun _ => rfl) (fun _ => rfl), written]
      refine and_congr_right fun _ => ⟨fun accepted _ => accepted, fun accepted => ?_⟩
      exact accepted ⟨⟨unnamed, domain⟩, rfl, stored, fresh, taken⟩

theorem update_zone_iff {req : UpdateZoneRequest} :
    Valid lib (updateZone state zoneID req stores).2 ↔ Valid lib state := by
  unfold updateZone
  split
  · rfl
  · rename_i zone _
    split_ifs
    · rfl
    · dsimp only
      rw [State.zoneDone, valid_zone_update_iff Zone.done (fun _ => rfl) (fun _ => rfl),
        State.updateZone,
        valid_zone_update_iff (req.apply zone) (fun _ => rfl) (fun _ => rfl)]

theorem covers_deleted : Covers lib rs rs.deleted :=
  ⟨rfl, rfl, rfl, rfl, fun live => absurd rfl live, fun live => absurd rfl live⟩

theorem delete_zone_valid (valid : Valid lib state) :
    Valid lib (deleteZone state zoneID).2 := by
  unfold deleteZone
  split
  · exact valid
  · rename_i zone _
    have deleted := valid_record_change
      (deleted_with_id zoneID) (by
        intro rs _
        unfold RecordSet.deletedWith
        split_ifs
        · exact covers_deleted lib rs
        · exact covers_refl) valid
    exact (valid_zone_update_iff Zone.deleted (fun _ => rfl) (fun _ => rfl)).mpr deleted

theorem record_found {zoneID : String} {rs : RecordSet}
    (found : state.recordSet rsID zoneID = some rs) : rs ∈ state.recordSets.rows ∧ rs.id = rsID :=
  (find_iff _).mp (Option.filter_eq_some_iff.mp found).1

theorem delete_record_set_valid (valid : Valid lib state) :
    Valid lib (deleteRecordSet state zoneID rsID).2 := by
  unfold deleteRecordSet
  split
  · exact valid
  · rename_i rs _
    split_ifs
    · exact valid
    · dsimp only
      rw [State.raiseSerial, valid_zone_update_iff Zone.raised (fun _ => rfl) (fun _ => rfl)]
      apply valid_record_change _ _ valid
      intro other _
      split_ifs
      · exact covers_deleted lib other
      · exact covers_refl

theorem covers_updated {req : UpdateRecordSetRequest} (checked : checkRecords lib rs req = .ok ()) :
    Covers lib rs (req.apply rs) := by
  refine ⟨rfl, rfl, rfl, rfl, id, fun _ accepted => ?_⟩
  unfold checkRecords at checked
  unfold Accepted UpdateRecordSetRequest.apply
  dsimp only
  split_ifs at checked with unchanged
  · rw [if_pos unchanged]
    exact accepted
  · rw [if_neg unchanged, checked]
    rfl

theorem update_record_set_valid {req : UpdateRecordSetRequest}
    (valid : Valid lib state) :
    Valid lib (updateRecordSet lib state zoneID rsID req stores).2 := by
  unfold updateRecordSet
  split
  · exact valid
  · rename_i rs found
    split
    · exact valid
    · rename_i checked
      split_ifs
      · exact valid
      · dsimp only
        rw [valid_record_done_iff, State.raiseSerial,
          valid_zone_update_iff Zone.raised (fun _ => rfl) (fun _ => rfl)]
        apply valid_record_change _ _ valid
        intro other member
        split_ifs with same
        · have equal := List.inj_on_of_nodup_map state.recordSets.distinct member
            (record_found found).1 same
          rw [equal]
          exact covers_updated lib rs checked
        · exact covers_refl

theorem owned_zone_update {zoneID : String} {change : Zone → Zone}
    (keeps : ∀ zone, (change zone).id = zone.id) (owned : Owned state) :
    Owned {state with zones := state.zones.update zoneID change keeps} := by
  intro rs member
  rw [keys_update]
  exact owned rs member

theorem owned_record_change (keeps : ∀ rs, (change rs).id = rs.id)
    (stays : ∀ rs, (change rs).zoneID = rs.zoneID) (owned : Owned state) :
    Owned {state with recordSets := state.recordSets.change change keeps} := by
  intro rs member
  obtain ⟨old, there, rfl⟩ := List.mem_map.mp member
  rw [stays]
  exact owned old there

theorem owned_record_update
    (keeps : ∀ rs, (change rs).id = rs.id) (stays : ∀ rs, (change rs).zoneID = rs.zoneID)
    (owned : Owned state) :
    Owned {state with recordSets := state.recordSets.update rsID change keeps} := by
  apply owned_record_change _ _ owned
  intro rs
  split_ifs
  · exact stays rs
  · rfl

theorem owned_create {rs : RecordSet} (created : state.create rs = some next)
    (there : rs.zoneID ∈ state.zones.rows.map Zone.id) (owned : Owned state) : Owned next := by
  obtain ⟨zones, rows⟩ := create_rows created
  intro other member
  rw [zones]
  rw [rows] at member
  rcases List.mem_append.mp member with old | new
  · exact owned other old
  · rw [List.mem_singleton.mp new]
    exact there

theorem owned_default (there : rs.zoneID ∈ state.zones.rows.map Zone.id) (owned : Owned state) :
    Owned (state.createDefault rs) := by
  unfold State.createDefault
  cases created : state.create rs with
  | none => exact owned
  | some next => exact owned_create created there owned

theorem owned_defaults {drawn : Drawn} (fresh : zone.id ∉ state.zones.rows.map Zone.id)
    (owned : Owned state) :
    Owned ((defaults zone drawn).foldl State.createDefault
      {state with zones := state.zones.insert zone fresh}) := by
  have listed : zone.id ∈ (state.zones.insert zone fresh).rows.map Zone.id :=
    List.mem_map_of_mem (List.mem_append_right _ List.mem_cons_self)
  have inserted : Owned {state with zones := state.zones.insert zone fresh} := by
    intro rs member
    obtain ⟨owner, there, same⟩ := List.mem_map.mp (owned rs member)
    rw [← same]
    exact List.mem_map_of_mem (List.mem_append_left _ there)
  have first := owned_default (soaRecord zone drawn) listed inserted
  exact owned_default (nsRecord zone drawn) (by rwa [default_zones]) first

theorem owned_import {projectID : String} (so : Import)
    (there : zoneID ∈ so.state.zones.rows.map Zone.id) (owned : Owned so.state) :
    Owned (items.foldl (importRecord lib zone zoneID projectID) so).state := by
  induction items generalizing so with
  | nil => exact owned
  | cons item rest ih =>
    apply ih
    · rwa [import_record_zones]
    · unfold importRecord
      split
      · exact owned
      · rename_i rs named
        split_ifs
        · exact owned
        · have owner := (imported_record_set lib zone zoneID projectID named).1
          rcases store_imported_cases so item rs with ⟨next, created, state, _⟩ | ⟨state, _⟩
          · rw [state]
            exact owned_create created (by rwa [owner]) owned
          · rw [state]
            exact owned

theorem owned_handle {action : Action} (owned : Owned state) :
    Owned (handle lib state action) := by
  cases action with
  | createZone req drawn projectID stores =>
    rw [handle, createZone]
    cases zoneTypeOf lib req.type with
    | none =>
      dsimp only
      split_ifs <;> exact owned
    | some zoneType =>
      dsimp only
      split_ifs with _ _ _ fresh
      · exact owned
      · exact owned
      · exact owned
      · exact owned
      · exact owned
      · exact owned_zone_update _ (owned_defaults _ fresh owned)
  | updateZone zoneID req stores =>
    rw [handle, updateZone]
    split
    · exact owned
    · split_ifs
      · exact owned
      · exact owned_zone_update _ (owned_zone_update _ owned)
  | deleteZone zoneID =>
    rw [handle, deleteZone]
    split
    · exact owned
    · have deleted := owned_record_change (deleted_with_id zoneID) (by
        intro rs
        unfold RecordSet.deletedWith
        split_ifs <;> rfl) owned
      exact owned_zone_update _ deleted
  | createRecordSet zoneID req id projectID stores =>
    rw [handle, createRecordSet]
    split
    · exact owned
    · rename_i zone found
      split
      · exact owned
      · rename_i rs checked
        split_ifs
        · exact owned
        · cases created : state.create rs with
          | none => exact owned
          | some next =>
            obtain ⟨listed, same⟩ := zone_found found
            have there : rs.zoneID ∈ state.zones.rows.map Zone.id := by
              rw [(new_record_set lib checked).1, ← same]
              exact List.mem_map_of_mem listed
            exact owned_record_update _ (fun _ => rfl) (owned_zone_update _
              (owned_create created there owned))
        · exact owned
  | updateRecordSet zoneID rsID req stores =>
    rw [handle, updateRecordSet]
    split
    · exact owned
    · split
      · exact owned
      · split_ifs
        · exact owned
        · exact owned_record_update _ (fun _ => rfl) (owned_zone_update _
            (owned_record_update _ (fun _ => rfl) owned))
  | deleteRecordSet zoneID rsID =>
    rw [handle, deleteRecordSet]
    split
    · exact owned
    · split_ifs
      · exact owned
      · exact owned_zone_update _ (owned_record_update _ (fun _ => rfl) owned)
  | importRecords zoneID records projectID =>
    rw [handle, importRecords]
    split
    · exact owned
    · rename_i zone found
      obtain ⟨listed, same⟩ := zone_found found
      split
      · exact owned
      · apply owned_zone_update
        apply owned_import
        · rw [← same]
          exact List.mem_map_of_mem listed
        · exact owned

variable (state)

/-- What the handlers do not check: that an absolute name lies in the zone, the
records of an import, and the SOA record of a new zone. -/
def Checked (state : State) : Action → Prop
  | .createZone req drawn _ stores =>
    NewZone lib state req drawn stores → drawn.soaID ∉ state.recordSets.rows.map RecordSet.id →
      (validateRecordData lib .soa
        (soaData (zoneName req.name) req.email drawn.serial)).isOk = true
  | .createRecordSet zoneID req id projectID stores =>
    ∀ zone, state.zone zoneID = some zone → ∀ rs,
      newRecordSet lib zone zoneID req id projectID = .ok rs → stores = true →
      Free state zoneID rs → hasSuffix req.name "." = true → InZone req.name zone.name
  | .importRecords zoneID records projectID =>
    ∀ zone items, state.zone zoneID = some zone → records = some items →
      Guarded (importStep lib zone zoneID projectID) (ImportChecked lib zone zoneID projectID)
        {state := state} items
  | _ => True

theorem import_records_iff {records : Option (List Imported)} {projectID : String}
    (valid : Valid lib state) :
    Valid lib (importRecords lib state zoneID records projectID).2 ↔
      Checked lib state (.importRecords zoneID records projectID) := by
  unfold importRecords Checked
  cases found : state.zone zoneID with
  | none => simp [valid, found]
  | some zone =>
    obtain ⟨listed, same⟩ := zone_found found
    cases records with
    | none => simp [valid]
    | some items =>
      dsimp only
      rw [State.raiseSerial,
        valid_zone_update_iff Zone.raised (fun _ => rfl) (fun _ => rfl),
        import_loop_iff lib zone zoneID projectID {state := state} listed same valid]
      simp [found]

theorem handle_valid_iff {action : Action} (sound : Sound lib state) :
    Valid lib (handle lib state action) ↔ Checked lib state action := by
  have valid := sound.valid
  cases action with
  | createZone req drawn projectID stores =>
    rw [handle, create_zone_iff lib sound.owned]
    exact and_iff_right valid
  | updateZone zoneID req stores =>
    rw [handle, update_zone_iff lib zoneID]
    exact iff_of_true valid trivial
  | deleteZone zoneID => exact iff_of_true (delete_zone_valid lib zoneID valid) trivial
  | createRecordSet zoneID req id projectID stores =>
    rw [handle, create_record_set_iff lib]
    exact and_iff_right valid
  | updateRecordSet zoneID rsID req stores =>
    exact iff_of_true (update_record_set_valid lib zoneID valid) trivial
  | deleteRecordSet zoneID rsID =>
    exact iff_of_true (delete_record_set_valid lib zoneID valid) trivial
  | importRecords zoneID records projectID =>
    exact import_records_iff lib state zoneID valid

theorem initial_sound : Sound lib {} where
  valid _ listed := by cases listed
  owned _ member := by cases member

/-- The record sets are valid throughout when every request passes the checks that
are left out. -/
theorem records_valid_iff (actions : List Action) :
    Always (step lib) (Valid lib) {} actions ↔ Guarded (step lib) (Checked lib) {} actions := by
  refine always_iff_guarded (Sound lib) (Valid lib) (fun _ sound => sound.valid) ?_ ?_
    actions {} (initial_sound lib)
  · intro state action next sound checked taken
    cases taken
    exact ⟨(handle_valid_iff lib state sound).mpr checked, owned_handle lib sound.owned⟩
  · intro state action sound unchecked
    exact ⟨_, rfl, fun valid => unchecked ((handle_valid_iff lib state sound).mp valid)⟩

def asciiLibrary : Library where
  toUpper := id
  quote := id
  supportedTypes := []

def newExample : Action :=
  .createZone {name := "example.com"} ⟨"zone", "soa", "ns", 2026111501⟩ "project" true

def foreignRecord : CreateRecordSetRequest :=
  {name := "www.example.org.", type := "A", records := "10.0.0.1"}

def brokenRecord : CreateRecordSetRequest := {name := "www", type := "A", records := "not an address"}

/-- A record set of another domain is created, and an import stores an A record
that is no address. -/
theorem unchecked_records_stored :
    ¬ Always (step asciiLibrary) (Valid asciiLibrary) {}
        [newExample, .createRecordSet "zone" foreignRecord "record" "project" true] ∧
      ¬ Always (step asciiLibrary) (Valid asciiLibrary) {}
        [newExample, .importRecords "zone" (some [{req := brokenRecord, id := "record"}]) "project"] := by
  constructor
  · intro always
    have last := always_last _ _ always rfl
    revert last
    decide +kernel
  · intro always
    have last := always_last _ _ always rfl
    revert last
    decide +kernel

end VcStack.RecordValidity

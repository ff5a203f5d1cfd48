import VcStack.Text

/-!
Policy documents of internal/management/identity/policy_evaluator.go as the
evaluator sees them after decoding, and the Go standard library functions it
calls. An object is the list of its entries in iteration order: Go leaves that
order open, so results about evaluation have to hold for every order.
-/

namespace VcStack.PolicyValues

/-- A decoded JSON value (`interface{}`); `null` is Go's nil interface. -/
inductive Json where
  | null
  | bool (value : Bool)
  | num (literal : String)
  | str (value : String)
  | arr (items : List Json)
  | obj (entries : List (String × Json))

/-- `models.JSONMap`; `none` is the nil map. -/
abbrev JSONMap := Option (List (String × Json))

structure Statement where
  sid : String := ""
  effect : String := ""
  action : Json := .null
  resource : Json := .null
  condition : Json := .null

structure PolicyDocument where
  version : String := ""
  statement : List Statement := []

structure Policy where
  id : Nat
  name : String := ""
  document : JSONMap := none

/-- A Go time: the instant in nanoseconds and the zone it is printed in. -/
structure GoTime where
  instant : Int
  zoneOffset : Int := 0

/-- The pure standard library functions the evaluator relies on. `unmarshal` is
`json.Marshal` followed by `json.Unmarshal` into a `PolicyDocument`, with `none`
for an error of either. `filepathMatch` drops the error of `filepath.Match`, as
every caller does. A parsed network is its membership test. -/
structure GoLibrary where
  unmarshal : JSONMap → Option PolicyDocument
  filepathMatch : String → String → Bool
  equalFold : String → String → Bool
  formatRFC3339 : GoTime → String
  parseRFC3339 : String → Option GoTime
  parseIP : String → Option (List UInt8)
  parseCIDR : String → Option (List UInt8 → Bool)

/-! `encoding/json` for documents whose keys are spelled like the struct tags.
A null leaves a string or struct at its zero value; any other kind mismatch is
an error for the document as a whole. -/

def decodeText : Option Json → Option String
  | none | some .null => some ""
  | some (.str value) => some value
  | some _ => none

def decodeStatement : Json → Option Statement
  | .null => some {}
  | .obj entries => do
      let sid ← decodeText (entries.lookup "Sid")
      let effect ← decodeText (entries.lookup "Effect")
      some {
        sid := sid
        effect := effect
        action := (entries.lookup "Action").getD .null
        resource := (entries.lookup "Resource").getD .null
        condition := (entries.lookup "Condition").getD .null }
  | _ => none

def decodePolicyDocument : JSONMap → Option PolicyDocument
  | none => some {}
  | some entries => do
      let version ← decodeText (entries.lookup "Version")
      match entries.lookup "Statement" with
      | none | some .null => some { version := version }
      | some (.arr items) => do
          let statement ← items.mapM decodeStatement
          some { version := version, statement := statement }
      | some _ => none

/-- The library on the inputs of the examples in this development: patterns
without metacharacters, texts in one letter case, no times and no addresses. -/
def plainLibrary : GoLibrary where
  unmarshal := decodePolicyDocument
  filepathMatch := fun pattern name => pattern == name
  equalFold := fun left right => left == right
  formatRFC3339 := fun _ => ""
  parseRFC3339 := fun _ => none
  parseIP := fun _ => none
  parseCIDR := fun _ => none

end VcStack.PolicyValues

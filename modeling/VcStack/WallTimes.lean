import VcStack.SlurmUsers
import VcStack.TextEncodings

/-!
Job submission to Slurm, from internal/management/hpc. The time limit of a job goes
out twice: as minutes in the payload, read by parseWallTime, and as the text of the
directive in the script, read by Slurm.
-/

namespace VcStack.WallTimes

open TextEncodings
open SlurmUsers (SlurmUserMapping)

structure HPCJob where
  id : String
  name : String
  projectID : String
  userID : String
  cpus : Int := 1
  memoryMB : Int := 1024
  gpus : Int := 0
  gpuType : String := ""
  nodes : Int := 1
  script : String := ""
  workDir : String := ""
  envVars : String := ""
  wallTimeLimit : String := ""
  slurmPartition : String := ""
  outputPath : String := ""
  errorPath : String := ""
deriving DecidableEq, Repr

abbrev Environment := List (String × String)

structure SlurmSubmitJob where
  name : String
  account : String
  partition : String
  nodes : Int
  tasks : Int
  tasksPerNode : Int
  cpusPerTask : Int
  memoryPerNode : Int
  timeLimit : Int64
  currentWorkDir : String
  standardOutput : String
  standardError : String
  environment : Environment
  gres : String
  qos : String
deriving DecidableEq

structure SlurmSubmitScript where
  script : String
  job : SlurmSubmitJob
deriving DecidableEq

structure GoLibrary where
  toLower : String → String
  /-- `json.Unmarshal` into a map of strings; none on an error -/
  unmarshal : String → Option Environment
  /-- the order in which a loop over a map meets the entries -/
  iterate : Environment → Environment

/-- The blanks that `fmt.Sscanf` skips before a verb; it stops with an error at the
end of a line. -/
def isBlank (char : Char) : Bool := Idempotency.isSpace char && char != '\n'

/-- The token of `%d`: a sign and the digits. -/
def numberToken (text : List Char) : List Char :=
  match text.dropWhile isBlank with
  | '-' :: rest => '-' :: rest.takeWhile Char.isDigit
  | '+' :: rest => '+' :: rest.takeWhile Char.isDigit
  | chars => chars.takeWhile Char.isDigit

/-- `fmt.Sscanf(text, "%d", &value)` with the error ignored: the value stays 0. -/
def sscanf (text : List Char) : Int64 := (parseInt (String.ofList (numberToken text))).getD 0

def parseWallTime (wallTime : String) : Int64 :=
  match wallTime.toList.splitOn ':' with
  | [hourPart, minutePart, _] =>
    let h := match hourPart.splitOn '-' with
      | [days, hours] => sscanf hours + sscanf days * 24
      | _ => sscanf hourPart
    h * 60 + sscanf minutePart
  | [hourPart, minutePart] => sscanf hourPart * 60 + sscanf minutePart
  | _ => sscanf wallTime.toList

def defaultStr (val fallback : String) : String := if val = "" then fallback else val

def setEntry (env : Environment) (key value : String) : Environment :=
  if env.any (·.1 == key) then env.map fun entry => if entry.1 = key then (key, value) else entry
  else env ++ [(key, value)]

def buildGres (lib : GoLibrary) (job : HPCJob) : String :=
  if job.gpus > 0 then
    if job.gpuType ≠ "" then "gpu:" ++ lib.toLower job.gpuType ++ ":" ++ toString job.gpus
    else "gpu:" ++ toString job.gpus
  else ""

def buildEnvironment (lib : GoLibrary) (job : HPCJob) : Environment :=
  let own : Environment := [("VC_STACK_JOB_ID", job.id), ("VC_STACK_PROJECT", job.projectID),
    ("VC_STACK_USER", job.userID), ("VC_STACK_SCHEDULER", "slurm")]
  let parsed := if job.envVars = "" then [] else (lib.unmarshal job.envVars).getD []
  let env := parsed.foldl (fun env entry => setEntry env entry.1 entry.2) own
  if job.gpus > 1 ∨ job.nodes > 1 then
    setEntry (setEntry env "NCCL_DEBUG" "INFO") "NCCL_IB_DISABLE" "0"
  else env

def directive (option value : String) : String := "#SBATCH --" ++ option ++ "=" ++ value ++ "\n"

def optionalDirective (option value : String) : String :=
  if value = "" then "" else directive option value

def timeOption (job : HPCJob) : String := defaultStr job.wallTimeLimit "24:00:00"

def scriptHead (job : HPCJob) (gres : String) : String :=
  "#!/bin/bash\n" ++ directive "job-name" job.name ++
    directive "nodes" (toString (max job.nodes 1)) ++ directive "ntasks-per-node" "1" ++
    directive "cpus-per-task" (toString (max job.cpus 1)) ++
    directive "mem" (toString (max job.memoryMB 1024) ++ "M") ++ optionalDirective "gres" gres

def scriptTail (lib : GoLibrary) (job : HPCJob) (env : Environment) : String :=
  optionalDirective "partition" job.slurmPartition ++ optionalDirective "output" job.outputPath ++
    optionalDirective "error" job.errorPath ++ "\n# ── VC Stack Environment ──\n" ++
    String.join ((lib.iterate env).map fun entry =>
      "export " ++ entry.1 ++ "=\"" ++ entry.2 ++ "\"\n") ++
    (if job.gpus > 1 ∨ job.nodes > 1 then
      "\n# ── Multi-GPU / Multi-Node Setup ──\n" ++
        "export MASTER_ADDR=$(scontrol show hostname $SLURM_NODELIST | head -n 1)\n" ++
        "export MASTER_PORT=29500\n" ++
        "export WORLD_SIZE=$((SLURM_NNODES * SLURM_GPUS_ON_NODE))\n" ++
        "export LOCAL_RANK=$SLURM_LOCALID\n" ++ "export RANK=$SLURM_PROCID\n"
    else "") ++ "\n# ── User Script ──\n" ++ job.script ++ "\n"

def buildSbatchScript (lib : GoLibrary) (job : HPCJob) (gres : String) (env : Environment) :
    String :=
  scriptHead job gres ++ directive "time" (timeOption job) ++ scriptTail lib job env

def timeLimit (job : HPCJob) : Int64 :=
  if job.wallTimeLimit ≠ "" then parseWallTime job.wallTimeLimit else 1440

def buildSubmitScript (lib : GoLibrary) (job : HPCJob) (mapping : Option SlurmUserMapping) :
    SlurmSubmitScript :=
  let gres := buildGres lib job
  let env := buildEnvironment lib job
  { script := buildSbatchScript lib job gres env
    job := {
      name := job.name
      account := (mapping.map (·.slurmAccount)).getD job.projectID
      partition := defaultStr job.slurmPartition "default"
      nodes := max job.nodes 1
      tasks := max job.nodes 1
      tasksPerNode := 1
      cpusPerTask := max job.cpus 1
      memoryPerNode := max job.memoryMB 1024
      timeLimit := timeLimit job
      currentWorkDir := defaultStr job.workDir ("/home/" ++ defaultStr job.userID "vcuser")
      standardOutput := defaultStr job.outputPath ("/var/log/slurm/job-" ++ job.id ++ ".out")
      standardError := defaultStr job.errorPath ("/var/log/slurm/job-" ++ job.id ++ ".err")
      environment := env
      gres := gres
      qos := (mapping.map fun m => defaultStr m.qos "normal").getD "normal" } }

structure Numeral where
  chars : List Char
  some : chars ≠ []
  digits : ∀ char ∈ chars, char.isDigit = true

def Numeral.value (numeral : Numeral) : Nat := Nat.ofDigitChars 10 numeral.chars 0

inductive WallTime where
  | minutes (m : Numeral)
  | minutesSeconds (m s : Numeral)
  | hoursMinutesSeconds (h m s : Numeral)
  | daysHours (d h : Numeral)
  | daysHoursMinutes (d h m : Numeral)
  | daysHoursMinutesSeconds (d h m s : Numeral)

def daysAndHours (d h : Numeral) : List Char := ['-'].intercalate [d.chars, h.chars]

def WallTime.pieces : WallTime → List (List Char)
  | .minutes m => [m.chars]
  | .minutesSeconds m s => [m.chars, s.chars]
  | .hoursMinutesSeconds h m s => [h.chars, m.chars, s.chars]
  | .daysHours d h => [daysAndHours d h]
  | .daysHoursMinutes d h m => [daysAndHours d h, m.chars]
  | .daysHoursMinutesSeconds d h m s => [daysAndHours d h, m.chars, s.chars]

def WallTime.text (time : WallTime) : String := String.ofList ([':'].intercalate time.pieces)

def WallTime.seconds : WallTime → Nat
  | .minutes m => 60 * m.value
  | .minutesSeconds m s => 60 * m.value + s.value
  | .hoursMinutesSeconds h m s => 3600 * h.value + 60 * m.value + s.value
  | .daysHours d h => 86400 * d.value + 3600 * h.value
  | .daysHoursMinutes d h m => 86400 * d.value + 3600 * h.value + 60 * m.value
  | .daysHoursMinutesSeconds d h m s => 86400 * d.value + 3600 * h.value + 60 * m.value + s.value

def Rounds (minutes : Int) (seconds : Nat) : Prop :=
  minutes = seconds / 60 ∨ minutes = (seconds + 59) / 60

instance (minutes : Int) (seconds : Nat) : Decidable (Rounds minutes seconds) :=
  inferInstanceAs (Decidable (_ ∨ _))

variable {d h m s : Numeral} {time : WallTime}

section Fields

variable (numeral : Numeral)

theorem digit_code {char : Char} (digit : char.isDigit = true) :
    48 ≤ char.toNat ∧ char.toNat ≤ 57 := by
  simp only [Char.isDigit, Bool.and_eq_true, decide_eq_true_eq] at digit
  exact digit

theorem digit_plain {char : Char} (digit : char.isDigit = true) :
    isBlank char = false ∧ char ≠ '-' ∧ char ≠ '+' ∧ char ≠ ':' := by
  have code := digit_code digit
  refine ⟨?_, ?_, ?_, ?_⟩
  · have dark : Idempotency.isSpace char = false := by
      simp only [Idempotency.isSpace, Bool.or_eq_false_iff, decide_eq_false_iff_not,
        List.mem_cons, List.not_mem_nil, or_false, Bool.and_eq_false_iff]
      omega
    rw [isBlank, dark, Bool.false_and]
  all_goals
    rintro rfl
    revert digit
    decide

theorem numeral_token {rest : List Char} (ends : ∀ char ∈ rest.head?, char.isDigit = false) :
    numberToken (numeral.chars ++ rest) = numeral.chars := by
  have whole : (numeral.chars ++ rest).takeWhile Char.isDigit = numeral.chars := by
    rw [List.takeWhile_append_of_pos numeral.digits]
    cases rest with
    | nil => simp
    | cons char more => simp [ends char rfl]
  have first := numeral.digits
  obtain ⟨char, more, shape⟩ := List.exists_cons_of_ne_nil numeral.some
  rw [shape] at first whole ⊢
  obtain ⟨dark, noMinus, noPlus, _⟩ := digit_plain (first char List.mem_cons_self)
  have start : (char :: more ++ rest).dropWhile isBlank = char :: more ++ rest := by
    simp [dark]
  unfold numberToken
  rw [start]
  split
  case h_1 same => exact absurd (List.head_eq_of_cons_eq same) noMinus
  case h_2 same => exact absurd (List.head_eq_of_cons_eq same) noPlus
  case h_3 => exact whole

def Numeral.read : Nat := if numeral.value < 2 ^ 63 then numeral.value else 0

theorem sscanf_numeral (rest : List Char) (ends : ∀ char ∈ rest.head?, char.isDigit = false) :
    (sscanf (numeral.chars ++ rest)).toInt = numeral.read := by
  have unsigned : ∀ char ∈ numeral.chars, char ≠ '-' ∧ char ≠ '+' := fun char member =>
    have plain := digit_plain (numeral.digits char member)
    ⟨plain.2.1, plain.2.2.1⟩
  unfold sscanf parseInt
  rw [numeral_token numeral ends, String.toList_ofList]
  split
  rename_i negative digits shape
  -- The first character is no sign.
  have same : negative = false ∧ digits = numeral.chars := by
    split at shape
    case h_1 rest starts => exact absurd rfl (unsigned '-' (by rw [starts]; exact List.mem_cons_self)).1
    case h_2 rest starts => exact absurd rfl (unsigned '+' (by rw [starts]; exact List.mem_cons_self)).2
    case h_3 =>
        cases shape
        exact ⟨rfl, rfl⟩
  obtain ⟨rfl, rfl⟩ := same
  have allDigits : numeral.chars.any (fun char => !char.isDigit) = false := by
    simpa using numeral.digits
  simp only [numeral.some, allDigits, Bool.false_eq_true, or_self, ↓reduceIte]
  have named : Nat.ofDigitChars 10 numeral.chars 0 = numeral.value := rfl
  rw [named]
  unfold Numeral.read
  split_ifs with fits small small
  · exact Int64.toInt_ofInt_of_le (by omega) (by omega)
  · omega
  · omega
  · rfl

theorem sscanf_whole : (sscanf numeral.chars).toInt = numeral.read := by
  have plain := sscanf_numeral numeral [] (by simp)
  rwa [List.append_nil] at plain

/-- `%d` stops at the dash after the days. -/
theorem sscanf_days : (sscanf (daysAndHours d h)).toInt = d.read := by
  have shape : daysAndHours d h = d.chars ++ '-' :: h.chars := by
    simp [daysAndHours, List.intercalate_cons_cons, List.intercalate_singleton]
  rw [shape]
  exact sscanf_numeral d ('-' :: h.chars) (by simp)

end Fields

theorem days_split : (daysAndHours d h).splitOn '-' = [d.chars, h.chars] := by
  apply List.splitOn_intercalate
  · intro piece listed dash
    rcases List.mem_pair.mp listed with rfl | rfl
    · exact (digit_plain (d.digits '-' dash)).2.1 rfl
    · exact (digit_plain (h.digits '-' dash)).2.1 rfl
  · exact List.cons_ne_nil _ _

theorem field_no_dash {numeral : Numeral} : numeral.chars.splitOn '-' = [numeral.chars] := by
  have whole : ['-'].intercalate [numeral.chars] = numeral.chars := List.intercalate_singleton
  have split : (['-'].intercalate [numeral.chars]).splitOn '-' = [numeral.chars] := by
    apply List.splitOn_intercalate
    · intro piece listed dash
      rw [List.mem_singleton.mp listed] at dash
      exact (digit_plain (numeral.digits '-' dash)).2.1 rfl
    · exact List.cons_ne_nil _ _
  rwa [whole] at split

theorem field_no_colon {numeral : Numeral} : ':' ∉ numeral.chars := fun colon =>
  (digit_plain (numeral.digits ':' colon)).2.2.2 rfl

theorem days_no_colon : ':' ∉ daysAndHours d h := by
  intro colon
  rcases Text.mem_intercalate colon with dash | ⟨piece, listed, inside⟩
  · revert dash
    decide
  · rcases List.mem_pair.mp listed with rfl | rfl
    · exact field_no_colon inside
    · exact field_no_colon inside

theorem text_split : time.text.toList.splitOn ':' = time.pieces := by
  rw [WallTime.text, String.toList_ofList]
  apply List.splitOn_intercalate
  · cases time <;> simp [WallTime.pieces, field_no_colon, days_no_colon]
  · cases time <;> simp [WallTime.pieces]

def WallTime.summed : WallTime → Nat
  | .minutes m => m.read
  | .minutesSeconds m s => m.read * 60 + s.read
  | .hoursMinutesSeconds h m _ => h.read * 60 + m.read
  | .daysHours d _ => d.read
  | .daysHoursMinutes d _ m => d.read * 60 + m.read
  | .daysHoursMinutesSeconds d h m _ => (h.read + d.read * 24) * 60 + m.read

theorem read_lt (numeral : Numeral) : numeral.read < 2 ^ 63 := by
  unfold Numeral.read
  split <;> omega

theorem read_wraps {numeral : Numeral} :
    (numeral.read : Int) = (numeral.read : Int).bmod (2 ^ 64) := by
  have small := read_lt numeral
  rw [Int.bmod_eq_of_le] <;> omega

theorem sixty_value : (60 : Int64).toInt = 60 := by decide

theorem day_value : (24 : Int64).toInt = 24 := by decide

theorem parse_wall_time :
    (parseWallTime time.text).toInt = (time.summed : Int).bmod (2 ^ 64) := by
  unfold parseWallTime
  rw [text_split]
  cases time with
  | minutes m =>
    have whole : (WallTime.minutes m).text.toList = m.chars := by
      simp [WallTime.text, WallTime.pieces, List.intercalate_singleton]
    simp only [WallTime.pieces, WallTime.summed, whole, sscanf_whole]
    exact read_wraps
  | minutesSeconds m s =>
    simp only [WallTime.pieces, WallTime.summed, Int64.toInt_add, Int64.toInt_mul, sscanf_whole,
      sixty_value, Int.bmod_add_bmod]
    push_cast
    rfl
  | hoursMinutesSeconds h m s =>
    simp only [WallTime.pieces, WallTime.summed, field_no_dash, Int64.toInt_add,
      Int64.toInt_mul, sscanf_whole, sixty_value, Int.bmod_add_bmod]
    push_cast
    rfl
  | daysHours d h =>
    have whole : (WallTime.daysHours d h).text.toList = daysAndHours d h := by
      simp [WallTime.text, WallTime.pieces, List.intercalate_singleton]
    simp only [WallTime.pieces, WallTime.summed, whole, sscanf_days]
    exact read_wraps
  | daysHoursMinutes d h m =>
    simp only [WallTime.pieces, WallTime.summed, Int64.toInt_add, Int64.toInt_mul, sscanf_whole,
      sscanf_days, sixty_value, Int.bmod_add_bmod]
    push_cast
    rfl
  | daysHoursMinutesSeconds d h m s =>
    simp only [WallTime.pieces, WallTime.summed, days_split, Int64.toInt_add, Int64.toInt_mul,
      sscanf_whole, sixty_value, day_value, Int.bmod_add_bmod, Int.add_bmod_bmod,
      Int.bmod_mul_bmod]
    push_cast
    rfl

/-- Minutes and seconds so large that 60 times the minutes and the seconds wrap
around to the limit. -/
def WrapsAround (m s : Nat) : Prop :=
  2 ^ 63 ≤ 60 * m + s ∧ ∃ minutes, (minutes = (60 * m + s) / 60 ∨ minutes = (60 * m + s + 59) / 60) ∧
    minutes < 2 ^ 63 ∧ (60 * m + if s < 2 ^ 63 then s else 0) % 2 ^ 64 = minutes

/-- The forms that parseWallTime knows, with fields it can hold and less than a
minute of seconds, and the few texts of the other forms that it reads as Slurm does. -/
def Understood : WallTime → Prop
  | .minutes m => m.value < 2 ^ 63
  | .minutesSeconds m s => m.value = 0 ∧ s.value ≤ 1 ∨ WrapsAround m.value s.value
  | .hoursMinutesSeconds h m s => 60 * h.value + m.value < 2 ^ 63 ∧ s.value < 60
  | .daysHours d h => d.value = 0 ∧ h.value = 0
  | .daysHoursMinutes d h m => d.value = 0 ∧ h.value = 0 ∧ m.value < 2 ^ 63
  | .daysHoursMinutesSeconds d h m s =>
    1440 * d.value + 60 * h.value + m.value < 2 ^ 63 ∧ s.value < 60

theorem bmod_nat_iff {value minutes : Nat} :
    (value : Int).bmod (2 ^ 64) = minutes ↔ minutes < 2 ^ 63 ∧ value % 2 ^ 64 = minutes := by
  rw [Int.bmod_def]
  split <;> omega

theorem rounds_bmod_iff {value seconds : Nat} :
    Rounds ((value : Int).bmod (2 ^ 64)) seconds ↔
      ∃ minutes, (minutes = seconds / 60 ∨ minutes = (seconds + 59) / 60) ∧
        minutes < 2 ^ 63 ∧ value % 2 ^ 64 = minutes := by
  have down : ((seconds : Int) / 60) = ((seconds / 60 : Nat) : Int) := by omega
  have up : (((seconds : Int) + 59) / 60) = (((seconds + 59) / 60 : Nat) : Int) := by omega
  rw [Rounds, down, up, bmod_nat_iff, bmod_nat_iff]
  constructor
  · rintro (holds | holds)
    · exact ⟨_, Or.inl rfl, holds⟩
    · exact ⟨_, Or.inr rfl, holds⟩
  · rintro ⟨minutes, rfl | rfl, holds⟩
    · exact Or.inl holds
    · exact Or.inr holds

theorem read_of_lt (numeral : Numeral) (small : numeral.value < 2 ^ 63) :
    numeral.read = numeral.value := if_pos small

theorem summed_rounds {value seconds : Nat} (total : Nat) (small : total < 2 ^ 63) (same : value = total)
    (rounded : total = seconds / 60 ∨ total = (seconds + 59) / 60) :
    Rounds ((value : Int).bmod (2 ^ 64)) seconds := by
  rw [rounds_bmod_iff]
  refine ⟨total, rounded, small, ?_⟩
  rw [same, Nat.mod_eq_of_lt]
  omega

theorem rounds_bounds {value seconds : Nat}
    (rounds : Rounds ((value : Int).bmod (2 ^ 64)) seconds) :
    ∃ minutes, minutes < 2 ^ 63 ∧ seconds < 60 * minutes + 60 ∧ 60 * minutes < seconds + 60 ∧
      (value < 2 ^ 64 → value = minutes) := by
  obtain ⟨minutes, rounded, small, same⟩ := rounds_bmod_iff.mp rounds
  refine ⟨minutes, small, by omega, by omega, ?_⟩
  intro fits
  rwa [Nat.mod_eq_of_lt fits] at same

theorem minutes_iff :
    Rounds ((m.read : Int).bmod (2 ^ 64)) (60 * m.value) ↔ m.value < 2 ^ 63 := by
  constructor
  · intro rounds
    obtain ⟨minutes, small, low, _, _⟩ := rounds_bounds rounds
    omega
  · intro small
    exact summed_rounds m.value small (read_of_lt m small) (by omega)

theorem minutes_seconds_iff :
    Rounds (((m.read * 60 + s.read : Nat) : Int).bmod (2 ^ 64)) (60 * m.value + s.value) ↔
      m.value = 0 ∧ s.value ≤ 1 ∨ WrapsAround m.value s.value := by
  constructor
  · intro rounds
    obtain ⟨minutes, rounded, small, same⟩ := rounds_bmod_iff.mp rounds
    rw [read_of_lt m (by omega), Nat.mul_comm m.value 60] at same
    by_cases large : 2 ^ 63 ≤ 60 * m.value + s.value
    · exact Or.inr ⟨large, minutes, rounded, small, same⟩
    · rw [read_of_lt s (by omega), Nat.mod_eq_of_lt (by omega)] at same
      left
      omega
  · rintro (⟨none, few⟩ | ⟨_, minutes, rounded, small, same⟩)
    · have mRead := read_of_lt m (by omega)
      have sRead := read_of_lt s (by omega)
      exact summed_rounds s.value (by omega) (by omega) (by omega)
    · rw [rounds_bmod_iff, read_of_lt m (by omega), Nat.mul_comm m.value 60]
      exact ⟨minutes, rounded, small, same⟩

theorem hours_minutes_seconds_iff :
    Rounds (((h.read * 60 + m.read : Nat) : Int).bmod (2 ^ 64))
        (3600 * h.value + 60 * m.value + s.value) ↔
      60 * h.value + m.value < 2 ^ 63 ∧ s.value < 60 := by
  constructor
  · intro rounds
    obtain ⟨minutes, small, low, high, same⟩ := rounds_bounds rounds
    rw [read_of_lt h (by omega), read_of_lt m (by omega)] at same
    have total := same (by omega)
    omega
  · rintro ⟨small, few⟩
    rw [read_of_lt h (by omega), read_of_lt m (by omega)]
    exact summed_rounds (60 * h.value + m.value) small (by omega) (by omega)

theorem days_hours_iff :
    Rounds ((d.read : Int).bmod (2 ^ 64)) (86400 * d.value + 3600 * h.value) ↔
      d.value = 0 ∧ h.value = 0 := by
  constructor
  · intro rounds
    obtain ⟨minutes, small, low, high, same⟩ := rounds_bounds rounds
    rw [read_of_lt d (by omega)] at same
    have total := same (by omega)
    omega
  · rintro ⟨noDays, noHours⟩
    exact summed_rounds 0 (by omega) (by rw [read_of_lt d (by omega), noDays]) (by omega)

theorem days_hours_minutes_iff :
    Rounds (((d.read * 60 + m.read : Nat) : Int).bmod (2 ^ 64))
        (86400 * d.value + 3600 * h.value + 60 * m.value) ↔
      d.value = 0 ∧ h.value = 0 ∧ m.value < 2 ^ 63 := by
  constructor
  · intro rounds
    obtain ⟨minutes, small, low, high, same⟩ := rounds_bounds rounds
    rw [read_of_lt d (by omega), read_of_lt m (by omega)] at same
    have total := same (by omega)
    omega
  · rintro ⟨noDays, noHours, small⟩
    rw [read_of_lt d (by omega), read_of_lt m small]
    exact summed_rounds m.value small (by omega) (by omega)

theorem days_hours_minutes_seconds_iff :
    Rounds ((((h.read + d.read * 24) * 60 + m.read : Nat) : Int).bmod (2 ^ 64))
        (86400 * d.value + 3600 * h.value + 60 * m.value + s.value) ↔
      1440 * d.value + 60 * h.value + m.value < 2 ^ 63 ∧ s.value < 60 := by
  constructor
  · intro rounds
    obtain ⟨minutes, small, low, high, same⟩ := rounds_bounds rounds
    rw [read_of_lt d (by omega), read_of_lt h (by omega), read_of_lt m (by omega)] at same
    have total := same (by omega)
    omega
  · rintro ⟨small, few⟩
    rw [read_of_lt d (by omega), read_of_lt h (by omega), read_of_lt m (by omega)]
    exact summed_rounds (1440 * d.value + 60 * h.value + m.value) small (by omega) (by omega)

theorem script_directive (lib : GoLibrary) (job : HPCJob) (gres : String) (env : Environment) :
    ∃ head tail, buildSbatchScript lib job gres env =
      head ++ "#SBATCH --time=" ++ timeOption job ++ "\n" ++ tail := by
  refine ⟨scriptHead job gres, scriptTail lib job env, ?_⟩
  simp only [buildSbatchScript, directive, String.append_assoc]
  rfl

theorem text_ne_empty : time.text ≠ "" := by
  intro empty
  have chars := congrArg String.toList empty
  rw [WallTime.text, String.toList_ofList] at chars
  apply Text.intercalate_ne_nil [':'] time.pieces _ _ chars
  · cases time <;> simp [WallTime.pieces]
  · have days (d h : Numeral) : daysAndHours d h ≠ [] := by
      apply Text.intercalate_ne_nil
      · exact List.cons_ne_nil _ _
      · simp [d.some, h.some]
    cases time <;> simp [WallTime.pieces, Numeral.some, days]

/-- For every job and every time that Slurm accepts, the script has the time as its
directive, and the limit of the payload is the duration of the directive exactly
when the time is understood. -/
theorem time_limits_agree_iff (lib : GoLibrary) (job : HPCJob) (mapping : Option SlurmUserMapping)
    (time : WallTime) :
    let submit := buildSubmitScript lib {job with wallTimeLimit := time.text} mapping
    (∃ head tail, submit.script = head ++ "#SBATCH --time=" ++ time.text ++ "\n" ++ tail) ∧
      (Rounds submit.job.timeLimit.toInt time.seconds ↔ Understood time) := by
  intro submit
  have given : time.text ≠ "" := text_ne_empty
  constructor
  · have written := script_directive lib {job with wallTimeLimit := time.text}
      (buildGres lib {job with wallTimeLimit := time.text})
      (buildEnvironment lib {job with wallTimeLimit := time.text})
    have option : timeOption {job with wallTimeLimit := time.text} = time.text := if_neg given
    rw [option] at written
    exact written
  · have limit : submit.job.timeLimit = parseWallTime time.text := by
      simp only [submit, buildSubmitScript, timeLimit]
      rw [if_pos given]
    rw [limit, parse_wall_time]
    cases time with
    | minutes m => exact minutes_iff
    | minutesSeconds m s => exact minutes_seconds_iff
    | hoursMinutesSeconds h m s => exact hours_minutes_seconds_iff
    | daysHours d h => exact days_hours_iff
    | daysHoursMinutes d h m => exact days_hours_minutes_iff
    | daysHoursMinutesSeconds d h m s => exact days_hours_minutes_seconds_iff

def plainLibrary : GoLibrary where
  toLower := id
  unmarshal _ := none
  iterate := id

def training : HPCJob where
  id := "job-1"
  name := "training"
  projectID := "p1"
  userID := "u1"

def fieldOf90 : Numeral := ⟨['9', '0'], by simp, by simp⟩

def fieldOf00 : Numeral := ⟨['0', '0'], by simp, by simp⟩

def fieldOf1 : Numeral := ⟨['1'], by simp, by simp⟩

/-- 90:00 is 90 minutes in the script and 5400 in the payload; 1-00 is a day in the
script and a minute in the payload. -/
theorem ninety_minutes_sixtyfold :
    (WallTime.minutesSeconds fieldOf90 fieldOf00).text = "90:00" ∧
      ¬ Rounds (buildSubmitScript plainLibrary {training with wallTimeLimit := "90:00"}
        none).job.timeLimit.toInt (WallTime.minutesSeconds fieldOf90 fieldOf00).seconds ∧
      (WallTime.daysHours fieldOf1 fieldOf00).text = "1-00" ∧
      ¬ Rounds (buildSubmitScript plainLibrary {training with wallTimeLimit := "1-00"}
        none).job.timeLimit.toInt (WallTime.daysHours fieldOf1 fieldOf00).seconds := by
  decide

end VcStack.WallTimes

import ScadaSim.Lib.Number
import ScadaSim.Lib.Text
import ScadaSim.Traffic.Profile

/-!
# The file with the traffic profiles

`TrafficProfileManager::initialize` reads the profiles from a file, line by line. What a
line asks for depends on the tags that `strstr` finds in it, in the order of the tests
(`demand`); a value is what stands between the last '<' and the last '>' of the line
(`GET_OFFSET`). The normalisation of the ratios, which comes last, is left out.
-/

namespace ScadaSim.Traffic

open Lib.Text Lib.Number

/-- The fields of a profile that a line can set, in the order of the tests. -/
inductive ProfileField
  | id
  | label
  | requestLength
  | requestsPerSession
  | replyLength
  | replyPerRequest
  | timeBetweenRequests
  | timeToRespond
  | timeBetweenSessions
  | ratio
  | wanRatio
  | port
  | hopLimit
  deriving DecidableEq

namespace ProfileField

/-- The name in the tag that `initialize` tests for. -/
def name : ProfileField → String
  | .id => "Id"
  | .label => "Label"
  | .requestLength => "RequestLength"
  | .requestsPerSession => "RequestPerSession"
  | .replyLength => "ReplyLength"
  | .replyPerRequest => "ReplyPerRequest"
  | .timeBetweenRequests => "TimeBetweenRequests"
  | .timeToRespond => "TimeToRespond"
  | .timeBetweenSessions => "TimeBetweenSessions"
  | .ratio => "Ratio"
  | .wanRatio => "WANRatio"
  | .port => "Port"
  | .hopLimit => "HopLimit"

/-- The tests, in their order. -/
def tests : List ProfileField :=
  [.id, .label, .requestLength, .requestsPerSession, .replyLength, .replyPerRequest,
    .timeBetweenRequests, .timeToRespond, .timeBetweenSessions, .ratio, .wanRatio, .port, .hopLimit]

end ProfileField

/-- The numbers of type `int`. -/
def IsInt (n : Int) : Prop := -2147483648 ≤ n ∧ n ≤ 2147483647

instance (n : Int) : Decidable (IsInt n) := inferInstanceAs (Decidable (_ ∧ _))

/-- What the program gets from outside: the double nearest to a number, or what stands for
an infinity and for nan; what `atoi` returns for a number that is no `int`; and the results
of the calls of `intuniform(1500, 60000)`. -/
structure Platform where
  nearest : Value → Rat
  overflow : List Char → Int
  overflow_isInt : ∀ s, IsInt (overflow s)
  intuniform : Nat → Int

namespace Platform

def atoi (env : Platform) (s : List Char) : Int :=
  if IsInt (Lib.Number.atoi s) then Lib.Number.atoi s else env.overflow s

def atof (env : Platform) (s : List Char) : Rat := env.nearest (Lib.Number.atof s)

theorem atoi_of_isInt (env : Platform) {s : List Char} (h : IsInt (Lib.Number.atoi s)) :
    env.atoi s = Lib.Number.atoi s := if_pos h

theorem isInt_atoi (env : Platform) (s : List Char) : IsInt (env.atoi s) := by
  unfold atoi
  split
  · assumption
  · exact env.overflow_isInt s

end Platform

/-- Doubles that are exact, 0 and -1 for what is no double and no `int`, and one port
only. -/
def plainPlatform : Platform where
  nearest
    | .finite x => x
    | .infinite _ | .nan _ => 0
  overflow _ := -1
  overflow_isInt _ := by decide
  intuniform _ := 1500

/-- The pattern for a tag. -/
def tag (name : List Char) : List Char := '<' :: (name ++ ['>'])

/-- The value in a line, if the line has a '<'. -/
def GET_OFFSET (s : List Char) : Option (List Char) :=
  if '<' ∈ s then some (upToLast '>' (afterLast '<' s)) else none

/-- What a line asks for. -/
inductive Demand
  | nothing
  | begin
  | set (field : ProfileField) (text : List Char)
  | finish
  deriving DecidableEq

/-- The chain of tests for the C string `s`. A field's tag has a '<', so that
`GET_OFFSET` finds one. -/
def demandOf (s : List Char) : Demand :=
  if strstr s ['#'] then .nothing
  else if strstr s (tag "Profile".toList) then .begin
  else
    match ProfileField.tests.find? fun f => strstr s (tag f.name.toList) with
    | some f => .set f ((GET_OFFSET s).getD [])
    | none => if strstr s (tag "/Profile".toList) then .finish else .nothing

def demand (buf : List Char) : Demand := demandOf (cstr buf)

/-- The assignment that a line makes. -/
def TrafficProfile.store (env : Platform) (t : TrafficProfile) (field : ProfileField)
    (text : List Char) : TrafficProfile :=
  match field with
  | .id => { t with profileID := env.atoi text }
  | .label => { t with label := String.ofList text }
  | .requestLength => { t with requestLength := env.atoi text }
  | .requestsPerSession => { t with requestsPerSession := env.atoi text }
  | .replyLength => { t with replyLength := env.atoi text }
  | .replyPerRequest => { t with replyPerRequest := env.atoi text }
  | .timeBetweenRequests => { t with timeBetweenRequests := env.atof text }
  | .timeToRespond => { t with timeToRespond := env.atof text }
  | .timeBetweenSessions => { t with timeBetweenSessions := env.atof text }
  | .ratio => { t with probability := env.atof text }
  | .wanRatio => { t with WANprob := env.atof text }
  | .port => { t with ownPort := env.atoi text }
  | .hopLimit => { t with hopLimit := env.atoi text }

/-- The loop's variables: the profile in work, whether there is one, the profiles that
are complete, and how often a port has been drawn. -/
structure Reader where
  status : Nat := 0
  t : TrafficProfile := {}
  profiles : List TrafficProfile := []
  draws : Nat := 0

/-- The validation check at the end of a profile. -/
def Reader.finish (env : Platform) (r : Reader) : Reader :=
  let r := { r with status := 0 }
  if r.t.label = "unspec" then r
  else if r.t.profileID = -1 then r
  else if r.t.ownPort = 0 then
    { r with
      profiles := r.profiles ++ [{ r.t with ownPort := env.intuniform r.draws }]
      draws := r.draws + 1 }
  else { r with profiles := r.profiles ++ [r.t] }

/-- What is done for a line. -/
def Reader.handle (env : Platform) (r : Reader) : Demand → Reader
  | .nothing => r
  | .begin => { r with t := {}, status := 1 }
  | .set field text => if r.status = 1 then { r with t := r.t.store env field text } else r
  | .finish => if r.status = 1 then r.finish env else r

/-- The body of the loop, with the buffer that `getline` has filled. -/
def Reader.line (env : Platform) (r : Reader) (buf : List Char) : Reader :=
  r.handle env (demand buf)

/-- The size of the buffer. -/
def bufferSize : Nat := 255

/-- The loop over the lines of the file. -/
def readProfiles (env : Platform) (text : List Char) : List TrafficProfile :=
  (getlines bufferSize (Reader.line env) { rest := text } {}).profiles

/-- `initialize`, up to the normalisation. There is no file, or it has the given text. -/
def initializeProfiles (env : Platform) (configFileName : String) (file : Option (List Char)) :
    Except Failure (List TrafficProfile) :=
  match file with
  | none => .error (.oppError ("Couldn't open config file " ++ configFileName))
  | some text =>
      if (readProfiles env text).length = 0 then
        .error (.oppError "No traffic profiles specified for generation of background traffic")
      else .ok (readProfiles env text)

/-- A file that can be opened is an error only when it has no profile. -/
theorem initializeProfiles_some (env : Platform) (configFileName : String) (text : List Char) :
    initializeProfiles env configFileName (some text) =
      if (readProfiles env text).length = 0 then
        .error (.oppError "No traffic profiles specified for generation of background traffic")
      else .ok (readProfiles env text) := rfl

/-! ## The fields of a profile -/

/-- A field's value. -/
inductive FieldValue
  | int (n : Int)
  | real (x : Rat)
  | text (s : String)
  deriving DecidableEq

def TrafficProfile.get (t : TrafficProfile) : ProfileField → FieldValue
  | .id => .int t.profileID
  | .label => .text t.label
  | .requestLength => .int t.requestLength
  | .requestsPerSession => .int t.requestsPerSession
  | .replyLength => .int t.replyLength
  | .replyPerRequest => .int t.replyPerRequest
  | .timeBetweenRequests => .real t.timeBetweenRequests
  | .timeToRespond => .real t.timeToRespond
  | .timeBetweenSessions => .real t.timeBetweenSessions
  | .ratio => .real t.probability
  | .wanRatio => .real t.WANprob
  | .port => .int t.ownPort
  | .hopLimit => .int t.hopLimit

/-- The text is the value as it is written: a whole number, a number with the value as its
nearest double, or the label itself. Of a number nothing but blanks is left to read. -/
def FieldValue.Written (env : Platform) (text : List Char) : FieldValue → Prop
  | .int n => ReadAs strtol text n
  | .real x => ∃ y, ReadAs strtod text y ∧ env.nearest y = x
  | .text s => s.toList = text

theorem FieldValue.written_whole (env : Platform) (m : Whole) :
    (FieldValue.int m.value).Written env m.text :=
  ⟨[], strtol_text m, by simp⟩

theorem FieldValue.written_decimal (env : Platform) (d : Decimal) :
    (FieldValue.real (env.nearest (.finite d.value))).Written env d.text :=
  ⟨.finite d.value, ⟨[], strtod_text d, by simp⟩, rfl⟩

end ScadaSim.Traffic

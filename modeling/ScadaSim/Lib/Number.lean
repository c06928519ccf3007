import Mathlib.Algebra.Order.Field.Rat
import Mathlib.Data.List.Induction
import Mathlib.Data.List.TakeWhile
import Mathlib.Tactic.FieldSimp
import Mathlib.Tactic.Ring

/-!
# Numbers as texts

`strtol` and `strtod` of the C library, on lists of characters: the number at the front of a
text, behind blanks, and the text that is left. `strtod` knows decimal and hexadecimal
numbers, infinities and nan, and gives the number that is written, which the caller rounds;
so are the limits of `int` the caller's.

A text is a numeral when it is read to its end (`ReadAs`), and then it has the characters of
numbers only. A `Whole` or a `Decimal` is a number as it is usually written, with its value:
`strtol_text` and `strtod_text` read it so.
-/

namespace Lib.Number

/-! ## Reading -/

def isspace (c : Char) : Bool := c == ' ' || decide (9 ≤ c.toNat ∧ c.toNat ≤ 13)

/-- The letters come after the digit 9. -/
def digitValue (c : Char) : Nat :=
  if c.isDigit then c.toNat - 48 else if c.isUpper then c.toNat - 55 else c.toNat - 87

/-- The number that a run of digits denotes. -/
def digitsValue (base : Nat) (ds : List Char) : Nat :=
  ds.foldl (fun n d => base * n + digitValue d) 0

/-- Whether the text begins with a minus, and the text without its sign. -/
def takeSign : List Char → Bool × List Char
  | '-' :: s => (true, s)
  | '+' :: s => (false, s)
  | s => (false, s)

def signed {α : Type} [Neg α] (negative : Bool) (x : α) : α := if negative then -x else x

/-- A whole number with its sign. -/
def takeInt (s : List Char) : Option (Int × List Char) :=
  match (takeSign s).2.takeWhile Char.isDigit with
  | [] => none
  | ds => some (signed (takeSign s).1 (digitsValue 10 ds : Int),
      (takeSign s).2.dropWhile Char.isDigit)

/-- Without a number there is no conversion. -/
def strtol (s : List Char) : Option (Int × List Char) := takeInt (s.dropWhile isspace)

def atoi (s : List Char) : Int := ((strtol s).map Prod.fst).getD 0

/-- How numbers with a fraction are written: their digits, the mark in front of the exponent,
and what the exponent is one of. -/
structure Radix where
  base : Nat
  isDigit : Char → Bool
  mark : Char
  scale : Nat

def decimal : Radix := ⟨10, Char.isDigit, 'e', 10⟩

def hexadecimal : Radix := ⟨16, Char.isHexDigit, 'p', 2⟩

/-- The digits behind a point, and the text behind them. -/
def takeFraction (isDigit : Char → Bool) : List Char → List Char × List Char
  | '.' :: s => (s.takeWhile isDigit, s.dropWhile isDigit)
  | s => ([], s)

/-- The exponent; a mark without one is not read. -/
def takeExponent (mark : Char) : List Char → Int × List Char
  | [] => (0, [])
  | c :: s => if c.toLower = mark then (takeInt s).getD (0, c :: s) else (0, c :: s)

def takeNumber (x : Radix) (s : List Char) : Option (Rat × List Char) :=
  let (fraction, rest) := takeFraction x.isDigit (s.dropWhile x.isDigit)
  match s.takeWhile x.isDigit ++ fraction with
  | [] => none
  | ds =>
      let (exponent, rest) := takeExponent x.mark rest
      some ((digitsValue x.base ds : Rat) / (x.base : Rat) ^ fraction.length *
        (x.scale : Rat) ^ exponent, rest)

/-- What is left behind the word, in which capital letters are as good. -/
def takeWord (word s : List Char) : Option (List Char) :=
  if (s.take word.length).map Char.toLower = word then some (s.drop word.length) else none

/-- What is left behind the characters in brackets that may follow "nan". -/
def skipBrackets : List Char → List Char
  | '(' :: s =>
      match s.dropWhile fun c => c.isAlphanum || c == '_' with
      | ')' :: rest => rest
      | _ => '(' :: s
  | s => s

/-- What a text denotes that `strtod` reads. -/
inductive Value
  | finite (x : Rat)
  | infinite (negative : Bool)
  | nan (negative : Bool)
  deriving DecidableEq

instance : Neg Value where
  neg
    | .finite x => .finite (-x)
    | .infinite negative => .infinite (!negative)
    | .nan negative => .nan (!negative)

def takeFinite (s : List Char) : Option (Rat × List Char) :=
  ((takeWord "0x".toList s).bind (takeNumber hexadecimal)).or (takeNumber decimal s)

def takeValue (s : List Char) : Option (Value × List Char) :=
  match (takeWord "infinity".toList s).or (takeWord "inf".toList s), takeWord "nan".toList s with
  | some rest, _ => some (.infinite false, rest)
  | none, some rest => some (.nan false, skipBrackets rest)
  | none, none => (takeFinite s).map fun r => (.finite r.1, r.2)

def strtod (s : List Char) : Option (Value × List Char) :=
  (takeValue (takeSign (s.dropWhile isspace)).2).map fun r =>
    (signed (takeSign (s.dropWhile isspace)).1 r.1, r.2)

def atof (s : List Char) : Value := ((strtod s).map Prod.fst).getD (.finite 0)

/-- Nothing but blanks is left of the text when the number has been read. -/
def ReadAs {α : Type} (read : List Char → Option (α × List Char)) (s : List Char) (a : α) :
    Prop :=
  ∃ rest, read s = some (a, rest) ∧ ∀ c ∈ rest, isspace c = true

theorem ReadAs.unique {α : Type} {read : List Char → Option (α × List Char)} {s : List Char}
    {a b : α} (ha : ReadAs read s a) (hb : ReadAs read s b) : a = b := by
  obtain ⟨rest, ha, -⟩ := ha
  obtain ⟨rest', hb, -⟩ := hb
  rw [ha] at hb
  exact (Prod.mk.inj (Option.some.inj hb)).1

theorem atoi_of_readAs {s : List Char} {n : Int} (h : ReadAs strtol s n) : atoi s = n := by
  obtain ⟨rest, h, -⟩ := h
  unfold atoi
  rw [h]
  rfl

theorem atof_of_readAs {s : List Char} {x : Value} (h : ReadAs strtod s x) : atof s = x := by
  obtain ⟨rest, h, -⟩ := h
  unfold atof
  rw [h]
  rfl

example : atof "0x1.8p3".toList = .finite 12 ∧ atof " -.5e1kg".toList = .finite (-5) ∧
    atof "-Infinity".toList = .infinite true ∧ strtod "nan(2)".toList = some (.nan false, []) ∧
    strtod "0xg".toList = some (.finite 0, "xg".toList) ∧ atof "e".toList = .finite 0 := by
  decide +kernel

/-! ## The characters of a numeral -/

/-- The characters that numerals are made of: with the letters those of a name. -/
def isNumberChar (c : Char) : Bool :=
  c.isAlphanum || isspace c || c == '+' || c == '-' || c == '.' || c == '_' || c == '(' || c == ')'

theorem isNumberChar_of_isAlphanum {c : Char} (h : c.isAlphanum = true) :
    isNumberChar c = true := by
  simp [isNumberChar, h]

theorem isNumberChar_of_isspace {c : Char} (h : isspace c = true) : isNumberChar c = true := by
  simp [isNumberChar, h]

theorem isAlphanum_of_isUpper {c : Char} (h : c.isUpper = true) : c.isAlphanum = true :=
  Bool.or_eq_true_iff.mpr (.inl (Bool.or_eq_true_iff.mpr (.inl h)))

theorem isAlphanum_of_isLower {c : Char} (h : c.isLower = true) : c.isAlphanum = true :=
  Bool.or_eq_true_iff.mpr (.inl (Bool.or_eq_true_iff.mpr (.inr h)))

theorem isNumberChar_of_isDigit {c : Char} (h : c.isDigit = true) : isNumberChar c = true :=
  isNumberChar_of_isAlphanum (Bool.or_eq_true_iff.mpr (.inr h))

theorem isNumberChar_of_isHexDigit {c : Char} (h : c.isHexDigit = true) :
    isNumberChar c = true := by
  rcases Bool.or_eq_true_iff.mp h with h | hupper
  · rcases Bool.or_eq_true_iff.mp h with hdigit | hlower
    · exact isNumberChar_of_isDigit hdigit
    · obtain ⟨ha, hf⟩ := Bool.and_eq_true_iff.mp hlower
      have hz : c.val ≤ 'z'.val := UInt32.le_trans (of_decide_eq_true hf) (by decide)
      exact isNumberChar_of_isAlphanum
        (isAlphanum_of_isLower (Bool.and_eq_true_iff.mpr ⟨ha, decide_eq_true hz⟩))
  · obtain ⟨hA, hF⟩ := Bool.and_eq_true_iff.mp hupper
    have hZ : c.val ≤ 'Z'.val := UInt32.le_trans (of_decide_eq_true hF) (by decide)
    exact isNumberChar_of_isAlphanum
      (isAlphanum_of_isUpper (decide_eq_true ⟨of_decide_eq_true hA, hZ⟩))

/-- A letter or a digit in small letters is one. -/
theorem isAlphanum_of_toLower {c : Char} (h : c.toLower.isAlphanum = true) :
    c.isAlphanum = true := by
  unfold Char.toLower at h
  split at h
  · rename_i hrange
    exact isAlphanum_of_isUpper (decide_eq_true hrange)
  · exact h

/-- What has been read in front of the rest are characters of numerals. -/
def Taken (s rest : List Char) : Prop :=
  ∃ front, s = front ++ rest ∧ ∀ c ∈ front, isNumberChar c = true

section Taken

variable {s r rest : List Char} {c : Char}

theorem Taken.refl (s : List Char) : Taken s s := ⟨[], rfl, by simp⟩

theorem Taken.trans (h : Taken s r) (h' : Taken r rest) : Taken s rest := by
  obtain ⟨a, rfl, ha⟩ := h
  obtain ⟨b, rfl, hb⟩ := h'
  refine ⟨a ++ b, (List.append_assoc a b rest).symm, fun c hc => ?_⟩
  exact (List.mem_append.mp hc).elim (ha c) (hb c)

theorem taken_cons (hc : isNumberChar c = true) (s : List Char) : Taken (c :: s) s :=
  ⟨[c], rfl, by simpa using hc⟩

theorem taken_dropWhile {p : Char → Bool} (hp : ∀ c, p c = true → isNumberChar c = true)
    (s : List Char) : Taken s (s.dropWhile p) :=
  ⟨s.takeWhile p, List.takeWhile_append_dropWhile.symm, fun c hc =>
    hp c (List.mem_takeWhile_imp hc)⟩

theorem taken_takeSign (s : List Char) : Taken s (takeSign s).2 := by
  unfold takeSign
  split
  · exact taken_cons (by decide) _
  · exact taken_cons (by decide) _
  · exact .refl _

theorem taken_takeInt {x : Int × List Char} (h : takeInt s = some x) : Taken s x.2 := by
  unfold takeInt at h
  split at h
  · cases h
  · cases h
    exact (taken_takeSign s).trans (taken_dropWhile (fun _ => isNumberChar_of_isDigit) _)

theorem taken_takeFraction {p : Char → Bool} (hp : ∀ c, p c = true → isNumberChar c = true)
    (s : List Char) : Taken s (takeFraction p s).2 := by
  unfold takeFraction
  split
  · exact (taken_cons (by decide) _).trans (taken_dropWhile hp _)
  · exact .refl _

theorem taken_takeExponent {mark : Char} (hmark : mark.isAlphanum = true) (s : List Char) :
    Taken s (takeExponent mark s).2 := by
  unfold takeExponent
  split
  · exact .refl _
  · rename_i c s
    split
    · rename_i hc
      cases hint : takeInt s with
      | none => exact .refl _
      | some x =>
          have hletter : isNumberChar c = true :=
            isNumberChar_of_isAlphanum (isAlphanum_of_toLower (hc ▸ hmark))
          exact (taken_cons hletter s).trans (taken_takeInt hint)
    · exact .refl _

theorem taken_takeNumber {x : Radix} (hdigit : ∀ c, x.isDigit c = true → isNumberChar c = true)
    (hmark : x.mark.isAlphanum = true) {y : Rat × List Char} (h : takeNumber x s = some y) :
    Taken s y.2 := by
  unfold takeNumber at h
  dsimp only at h
  split at h
  · cases h
  · cases h
    exact ((taken_dropWhile hdigit s).trans (taken_takeFraction hdigit _)).trans
      (taken_takeExponent hmark _)

theorem taken_takeWord {word : List Char} (hword : word.all Char.isAlphanum = true)
    (h : takeWord word s = some rest) : Taken s rest := by
  unfold takeWord at h
  split at h
  · rename_i hsame
    cases h
    refine ⟨s.take word.length, (List.take_append_drop _ s).symm, fun c hc => ?_⟩
    have hmem : c.toLower ∈ word := hsame ▸ List.mem_map_of_mem hc
    exact isNumberChar_of_isAlphanum (isAlphanum_of_toLower (List.all_eq_true.mp hword _ hmem))
  · cases h

theorem taken_skipBrackets (s : List Char) : Taken s (skipBrackets s) := by
  have hname : ∀ c : Char, (c.isAlphanum || c == '_') = true → isNumberChar c = true := by
    intro c hc
    rcases Bool.or_eq_true_iff.mp hc with halnum | hline
    · exact isNumberChar_of_isAlphanum halnum
    · rw [beq_iff_eq.mp hline]
      decide
  unfold skipBrackets
  split
  · rename_i s
    have hinner := taken_dropWhile hname s
    split
    · rename_i rest hclose
      rw [hclose] at hinner
      exact ((taken_cons (by decide) s).trans hinner).trans (taken_cons (by decide) rest)
    · exact .refl _
  · exact .refl _

theorem taken_takeFinite {x : Rat × List Char} (h : takeFinite s = some x) : Taken s x.2 := by
  unfold takeFinite at h
  rcases Option.or_eq_some_iff.mp h with hhex | ⟨-, hdec⟩
  · obtain ⟨r, hr, hx⟩ := Option.bind_eq_some_iff.mp hhex
    exact (taken_takeWord (by decide) hr).trans
      (taken_takeNumber (fun _ => isNumberChar_of_isHexDigit) (by decide) hx)
  · exact taken_takeNumber (fun _ => isNumberChar_of_isDigit) (by decide) hdec

theorem taken_takeValue {x : Value × List Char} (h : takeValue s = some x) : Taken s x.2 := by
  unfold takeValue at h
  split at h
  · rename_i rest _ hword
    cases h
    rcases Option.or_eq_some_iff.mp hword with hlong | ⟨-, hshort⟩
    · exact taken_takeWord (by decide) hlong
    · exact taken_takeWord (by decide) hshort
  · rename_i rest _ hword
    cases h
    exact (taken_takeWord (by decide) hword).trans (taken_skipBrackets rest)
  · obtain ⟨y, hy, rfl⟩ := Option.map_eq_some_iff.mp h
    exact taken_takeFinite hy

theorem taken_strtol {x : Int × List Char} (h : strtol s = some x) : Taken s x.2 :=
  (taken_dropWhile (fun _ => isNumberChar_of_isspace) s).trans (taken_takeInt h)

theorem taken_strtod {x : Value × List Char} (h : strtod s = some x) : Taken s x.2 := by
  obtain ⟨y, hy, rfl⟩ := Option.map_eq_some_iff.mp h
  have hblank : Taken s (s.dropWhile isspace) :=
    taken_dropWhile (fun _ => isNumberChar_of_isspace) s
  have hvalue : Taken (takeSign (s.dropWhile isspace)).2 y.2 := taken_takeValue hy
  exact (hblank.trans (taken_takeSign _)).trans hvalue

end Taken

/-- A text that is read to its end has the characters of numerals. -/
theorem ReadAs.isNumberChar {α : Type} {read : List Char → Option (α × List Char)}
    (hread : ∀ {s x}, read s = some x → Taken s x.2) {s : List Char} {a : α}
    (h : ReadAs read s a) : ∀ c ∈ s, isNumberChar c = true := by
  obtain ⟨rest, hs, hblank⟩ := h
  obtain ⟨front, rfl, hfront⟩ := hread hs
  intro c hc
  rcases List.mem_append.mp hc with hc | hc
  · exact hfront c hc
  · exact isNumberChar_of_isspace (hblank c hc)

/-! ## Writing -/

inductive Sign
  | none
  | plus
  | minus
  deriving DecidableEq

def Sign.text : Sign → List Char
  | .none => []
  | .plus => ['+']
  | .minus => ['-']

def Sign.negative : Sign → Bool
  | .minus => true
  | .none | .plus => false

def digitChar (d : Fin 10) : Char := Char.ofNat (48 + d)

def digits (ds : List (Fin 10)) : List Char := ds.map digitChar

def ofDigits (ds : List (Fin 10)) : Nat := ds.foldl (fun n d => 10 * n + d.val) 0

/-- A whole number as it is written. -/
structure Whole where
  sign : Sign := .none
  digits : List (Fin 10)
  digits_ne : digits ≠ []

def Whole.text (m : Whole) : List Char := m.sign.text ++ Number.digits m.digits

def Whole.value (m : Whole) : Int := signed m.sign.negative (ofDigits m.digits : Int)

/-- A decimal number as it is written: a fraction and an exponent may be missing. -/
structure Decimal where
  sign : Sign := .none
  digits : List (Fin 10)
  digits_ne : digits ≠ []
  fraction : Option (List (Fin 10)) := none
  exponent : Option Whole := none

def Decimal.fractionText (d : Decimal) : List Char :=
  match d.fraction with
  | none => []
  | some ds => '.' :: Number.digits ds

def Decimal.exponentText (d : Decimal) : List Char :=
  match d.exponent with
  | none => []
  | some m => 'e' :: m.text

def Decimal.text (d : Decimal) : List Char :=
  d.sign.text ++ (Number.digits d.digits ++ (d.fractionText ++ d.exponentText))

def Decimal.value (d : Decimal) : Rat :=
  let fraction := d.fraction.getD []
  signed d.sign.negative ((ofDigits d.digits + (ofDigits fraction : Rat) / 10 ^ fraction.length) *
    10 ^ ((d.exponent.map Whole.value).getD 0))

/-! ## Digits -/

@[simp] theorem digitChar_isDigit (d : Fin 10) : (digitChar d).isDigit = true := by
  revert d
  decide

theorem digitValue_digitChar (d : Fin 10) : digitValue (digitChar d) = d := by
  revert d
  decide

theorem isspace_digitChar (d : Fin 10) : isspace (digitChar d) = false := by
  revert d
  decide

theorem isDigit_of_mem_digits {ds : List (Fin 10)} {c : Char} (h : c ∈ digits ds) :
    c.isDigit = true := by
  obtain ⟨d, -, rfl⟩ := List.mem_map.mp h
  exact digitChar_isDigit d

theorem digits_ne_nil {ds : List (Fin 10)} (h : ds ≠ []) : digits ds ≠ [] :=
  fun hnil => h (List.map_eq_nil_iff.mp hnil)

/-- A text that does not go on with a digit. -/
def NoDigit (s : List Char) : Prop := ∀ c ∈ s.head?, c.isDigit = false

theorem takeWhile_digits (ds : List (Fin 10)) {s : List Char} (hs : NoDigit s) :
    (digits ds ++ s).takeWhile Char.isDigit = digits ds := by
  rw [List.takeWhile_append_of_pos fun c hc => isDigit_of_mem_digits hc]
  cases s with
  | nil => simp
  | cons c s => simp [hs c rfl]

theorem dropWhile_digits (ds : List (Fin 10)) {s : List Char} (hs : NoDigit s) :
    (digits ds ++ s).dropWhile Char.isDigit = s := by
  rw [List.dropWhile_append_of_pos fun c hc => isDigit_of_mem_digits hc]
  cases s with
  | nil => rfl
  | cons c s => simp [hs c rfl]

theorem digitsValue_digits (ds : List (Fin 10)) : digitsValue 10 (digits ds) = ofDigits ds := by
  unfold digitsValue digits ofDigits
  rw [List.foldl_map]
  simp only [digitValue_digitChar]

/-- Digits that are appended shift those in front of them. -/
theorem ofDigits_append (ds es : List (Fin 10)) :
    ofDigits (ds ++ es) = ofDigits ds * 10 ^ es.length + ofDigits es := by
  induction es using List.reverseRecOn with
  | nil => simp [ofDigits]
  | append_singleton es e ih =>
      have hlast (fs : List (Fin 10)) : ofDigits (fs ++ [e]) = 10 * ofDigits fs + e := by
        simp [ofDigits]
      rw [← List.append_assoc, hlast, hlast, ih, List.length_append, List.length_singleton,
        pow_succ]
      ring

/-! ## Reading what was written -/

theorem takeSign_text (g : Sign) {ds : List (Fin 10)} (hds : ds ≠ []) (s : List Char) :
    takeSign (g.text ++ (digits ds ++ s)) = (g.negative, digits ds ++ s) := by
  cases g with
  | plus => rfl
  | minus => rfl
  | none =>
      cases ds with
      | nil => exact absurd rfl hds
      | cons d ds =>
          have hd := digitChar_isDigit d
          simp only [Sign.text, digits, List.map_cons, List.cons_append, List.nil_append]
          unfold takeSign
          split
          · rename_i heq
            rw [(List.cons.inj heq).1] at hd
            cases hd
          · rename_i heq
            rw [(List.cons.inj heq).1] at hd
            cases hd
          · rfl

/-- A number does not begin with a blank. -/
theorem dropWhile_isspace (g : Sign) {ds : List (Fin 10)} (hds : ds ≠ []) (s : List Char) :
    (g.text ++ (digits ds ++ s)).dropWhile isspace = g.text ++ (digits ds ++ s) := by
  cases g with
  | plus => rfl
  | minus => rfl
  | none =>
      cases ds with
      | nil => exact absurd rfl hds
      | cons d ds => simp [Sign.text, digits, isspace_digitChar]

theorem takeInt_text (m : Whole) {s : List Char} (hs : NoDigit s) :
    takeInt (m.sign.text ++ (digits m.digits ++ s)) = some (m.value, s) := by
  unfold takeInt
  rw [takeSign_text m.sign m.digits_ne s]
  dsimp only
  rw [takeWhile_digits m.digits hs, dropWhile_digits m.digits hs]
  split
  · rename_i hnil
    exact absurd hnil (digits_ne_nil m.digits_ne)
  · rw [digitsValue_digits]
    rfl

theorem noDigit_nil : NoDigit [] := by simp [NoDigit]

theorem strtol_text (m : Whole) : strtol m.text = some (m.value, []) := by
  have hread := takeInt_text m noDigit_nil
  have hblank := dropWhile_isspace m.sign m.digits_ne []
  rw [List.append_nil] at hread hblank
  unfold strtol Whole.text
  rw [hblank, hread]

theorem takeExponent_text (d : Decimal) :
    takeExponent 'e' d.exponentText = ((d.exponent.map Whole.value).getD 0, []) := by
  unfold Decimal.exponentText
  cases d.exponent with
  | none => rfl
  | some m =>
      have hread := takeInt_text m noDigit_nil
      rw [List.append_nil] at hread
      show (if 'e'.toLower = 'e' then (takeInt m.text).getD (0, 'e' :: m.text)
        else (0, 'e' :: m.text)) = _
      rw [if_pos (by decide), Whole.text, hread]
      rfl

theorem noDigit_exponentText (d : Decimal) : NoDigit d.exponentText := by
  unfold Decimal.exponentText NoDigit
  cases d.exponent with
  | none => simp
  | some m => simp

theorem takeFraction_text (d : Decimal) :
    takeFraction Char.isDigit (d.fractionText ++ d.exponentText) =
      (digits (d.fraction.getD []), d.exponentText) := by
  have hexp := noDigit_exponentText d
  unfold Decimal.fractionText
  cases d.fraction with
  | some ds =>
      simp only [takeFraction, List.cons_append, takeWhile_digits ds hexp,
        dropWhile_digits ds hexp, Option.getD_some]
  | none =>
      unfold Decimal.exponentText
      cases d.exponent with
      | none => rfl
      | some m => rfl

/-- What comes behind the digits of a decimal number. -/
theorem head_fractionText (d : Decimal) :
    ∀ c ∈ (d.fractionText ++ d.exponentText).head?, c = '.' ∨ c = 'e' := by
  unfold Decimal.fractionText Decimal.exponentText
  cases d.fraction <;> cases d.exponent <;> simp

theorem noDigit_fractionText (d : Decimal) : NoDigit (d.fractionText ++ d.exponentText) := by
  intro c hc
  rcases head_fractionText d c hc with rfl | rfl <;> rfl

theorem toLower_of_isDigit {c : Char} (h : c.isDigit = true) : c.toLower = c := by
  unfold Char.toLower
  refine dif_neg fun hupper => ?_
  simp only [Char.isDigit, Bool.and_eq_true, decide_eq_true_iff, UInt32.le_iff_toNat_le,
    ge_iff_le] at h hupper
  have hA : 'A'.val.toNat = 65 := rfl
  have h9 : '9'.val.toNat = 57 := rfl
  omega

/-- A number is no word. -/
theorem takeWord_digits {c : Char} (hc : c.isDigit = false) (word : List Char)
    {ds : List (Fin 10)} (hds : ds ≠ []) (s : List Char) :
    takeWord (c :: word) (digits ds ++ s) = none := by
  obtain ⟨d, ds, rfl⟩ := List.exists_cons_of_ne_nil hds
  unfold takeWord
  refine if_neg fun hsame => ?_
  have hhead : (digitChar d).toLower = c := (List.cons.inj hsame).1
  rw [toLower_of_isDigit (digitChar_isDigit d)] at hhead
  rw [← hhead, digitChar_isDigit] at hc
  cases hc

/-- A decimal number does not begin like a hexadecimal one. -/
theorem takeWord_decimal (d : Decimal) :
    takeWord "0x".toList (digits d.digits ++ (d.fractionText ++ d.exponentText)) = none := by
  have hdigit : ∀ e : Fin 10, digitChar e ≠ 'x' := by decide
  have hx : ∀ c ∈ (digits d.digits.tail ++ (d.fractionText ++ d.exponentText)).head?,
      c.toLower ≠ 'x' := by
    intro c hc
    cases htail : d.digits.tail with
    | nil =>
        rw [htail] at hc
        rcases head_fractionText d c hc with rfl | rfl <;> decide
    | cons e es =>
        rw [htail] at hc
        obtain rfl : digitChar e = c := Option.some.inj hc
        rw [toLower_of_isDigit (digitChar_isDigit e)]
        exact hdigit e
  obtain ⟨c, cs, hdigits⟩ := List.exists_cons_of_ne_nil d.digits_ne
  rw [hdigits] at hx ⊢
  unfold takeWord
  refine if_neg fun hsame => ?_
  have hcons : digits (c :: cs) = digitChar c :: digits cs := rfl
  rw [hcons, List.cons_append] at hsame
  rw [List.tail_cons] at hx
  generalize digits cs ++ (d.fractionText ++ d.exponentText) = rest at hx hsame
  cases rest with
  | nil => cases (List.cons.inj hsame).2
  | cons x xs => exact hx x rfl (List.cons.inj (List.cons.inj hsame).2).1

theorem strtod_text (d : Decimal) : strtod d.text = some (.finite d.value, []) := by
  have hrest := noDigit_fractionText d
  have hdigits := digits_ne_nil d.digits_ne
  have hnumber : takeNumber decimal (digits d.digits ++ (d.fractionText ++ d.exponentText)) =
      some ((digitsValue 10 (digits d.digits ++ digits (d.fraction.getD [])) : Rat) /
        10 ^ (digits (d.fraction.getD [])).length *
        10 ^ ((d.exponent.map Whole.value).getD 0), []) := by
    simp only [takeNumber, decimal, takeWhile_digits d.digits hrest,
      dropWhile_digits d.digits hrest, takeFraction_text, takeExponent_text]
    split
    · rename_i hnil
      exact absurd (List.append_eq_nil_iff.mp hnil).1 hdigits
    · norm_num
  have hvalue : (digitsValue 10 (digits d.digits ++ digits (d.fraction.getD [])) : Rat) /
        10 ^ (digits (d.fraction.getD [])).length =
      ofDigits d.digits + (ofDigits (d.fraction.getD []) : Rat) /
        10 ^ (d.fraction.getD []).length := by
    have happend : digits d.digits ++ digits (d.fraction.getD []) =
        digits (d.digits ++ d.fraction.getD []) := (List.map_append ..).symm
    rw [happend, digitsValue_digits, ofDigits_append, digits, List.length_map]
    push_cast
    field_simp
  rw [hvalue] at hnumber
  unfold strtod takeValue takeFinite
  rw [Decimal.text, dropWhile_isspace d.sign d.digits_ne, takeSign_text d.sign d.digits_ne]
  dsimp only
  rw [takeWord_decimal, show "infinity".toList = 'i' :: "nfinity".toList from rfl,
    show "inf".toList = 'i' :: "nf".toList from rfl,
    show "nan".toList = 'n' :: "an".toList from rfl,
    takeWord_digits rfl _ d.digits_ne, takeWord_digits rfl _ d.digits_ne,
    takeWord_digits rfl _ d.digits_ne, hnumber]
  unfold Decimal.value signed
  cases d.sign.negative <;> rfl

end Lib.Number

import Mathlib.Data.List.DropRight
import Mathlib.Data.List.Induction
import Mathlib.Data.List.Infix

/-!
# C strings and lines

A buffer holds characters, and the C string in it ends at the first NUL. The functions
of the C library on such strings are list functions here, and a file is a stream that
`getline` takes lines of less than `n` characters from. A loop that reads a whole file
handles its lines one after the other (`getlines_unlines`), up to the first one that is
too long: of that one it gets the beginning.
-/

namespace Lib.Text

/-! ## Patterns -/

section Pattern

variable {α : Type} {c : α} {a b p s w : List α}

/-- Two texts that both end at the same mark. -/
theorem concat_prefix_iff (ha : c ∉ a) (hb : c ∉ b) (rest : List α) :
    a ++ [c] <+: b ++ c :: rest ↔ a = b := by
  induction a generalizing b with
  | nil =>
      cases b with
      | nil => simp
      | cons y b =>
          have hy : c ≠ y := fun h => hb (h ▸ List.mem_cons_self)
          simp [hy]
  | cons x a ih =>
      have hx : x ≠ c := fun h => ha (h ▸ List.mem_cons_self)
      cases b with
      | nil => simp [hx]
      | cons y b =>
          simp only [List.cons_append, List.cons_prefix_cons, List.cons.injEq]
          rw [ih (fun h => ha (List.mem_cons_of_mem x h)) (fun h => hb (List.mem_cons_of_mem y h))]

/-- A text that ends at a mark is found in front of the first mark, at its end, or
behind it. -/
theorem concat_infix_iff (ha : c ∉ a) (hb : c ∉ b) (rest : List α) :
    a ++ [c] <:+: b ++ c :: rest ↔ a <:+ b ∨ a ++ [c] <:+: rest := by
  induction b with
  | nil =>
      have hfront := concat_prefix_iff ha hb rest
      rw [List.nil_append] at hfront
      rw [List.nil_append, List.infix_cons_iff, hfront, List.suffix_nil]
  | cons y b ih =>
      rw [List.cons_append, List.infix_cons_iff,
        ih (fun h => hb (List.mem_cons_of_mem y h)), List.suffix_cons_iff,
        ← List.cons_append, concat_prefix_iff ha hb, or_assoc]

/-- A pattern is not found where its first character does not occur. -/
theorem not_infix_of_not_mem (h : c ∉ s) : ¬ c :: p <:+: s :=
  fun hp => h (hp.subset List.mem_cons_self)

theorem infix_append_iff (hw : c ∉ w) : c :: p <:+: w ++ s ↔ c :: p <:+: s := by
  induction w with
  | nil => rfl
  | cons x w ih =>
      have hx : c ≠ x := fun h => hw (h ▸ List.mem_cons_self)
      rw [List.cons_append, List.infix_cons_iff, ih (fun h => hw (List.mem_cons_of_mem x h))]
      simp [hx]

/-- At its first character a pattern is found here or further on. -/
theorem infix_cons_self_iff : c :: p <:+: c :: s ↔ p <+: s ∨ c :: p <:+: s := by
  rw [List.infix_cons_iff, List.cons_prefix_cons]
  simp

theorem not_mem_of_isPrefix (h : s <+: w) (hc : c ∉ w) : c ∉ s :=
  fun hs => hc (h.subset hs)

end Pattern

/-! ## C strings -/

/-- The C string in a buffer. -/
def cstr (buf : List Char) : List Char := buf.takeWhile (· ≠ '\x00')

theorem cstr_isPrefix (buf : List Char) : cstr buf <+: buf := List.takeWhile_prefix _

theorem not_mem_cstr (buf : List Char) : '\x00' ∉ cstr buf := by
  intro h
  simpa using List.mem_takeWhile_imp h

theorem cstr_eq_self {buf : List Char} (h : '\x00' ∉ buf) : cstr buf = buf := by
  unfold cstr
  rw [List.takeWhile_eq_self_iff]
  intro c hc
  have hne : c ≠ '\x00' := fun heq => h (heq ▸ hc)
  simpa using hne

theorem cstr_append {a : List Char} (h : '\x00' ∉ a) (b : List Char) :
    cstr (a ++ b) = a ++ cstr b := by
  refine List.takeWhile_append_of_pos fun c hc => ?_
  have hne : c ≠ '\x00' := fun heq => h (heq ▸ hc)
  simpa using hne

/-- `strstr`, as a test. -/
def strstr (s pattern : List Char) : Bool := decide (pattern <:+: s)

@[simp] theorem strstr_iff {s pattern : List Char} :
    strstr s pattern = true ↔ pattern <:+: s := by
  unfold strstr
  exact decide_eq_true_iff

@[simp] theorem strstr_eq_false_iff {s pattern : List Char} :
    strstr s pattern = false ↔ ¬ pattern <:+: s := by
  unfold strstr
  exact decide_eq_false_iff_not

theorem singleton_infix_iff {c : Char} {s : List Char} : [c] <:+: s ↔ c ∈ s := by
  constructor
  · intro h
    exact h.subset List.mem_cons_self
  · intro h
    obtain ⟨l, r, rfl⟩ := List.append_of_mem h
    exact ⟨l, r, by simp⟩

/-- What follows the last `c`: one further than `strrchr`. -/
def afterLast (c : Char) (s : List Char) : List Char := s.rtakeWhile (· ≠ c)

/-- The text cut at the last `c`, if it has one. -/
def upToLast (c : Char) (s : List Char) : List Char :=
  if c ∈ s then (s.rdropWhile (· ≠ c)).dropLast else s

theorem not_mem_afterLast (c : Char) (s : List Char) : c ∉ afterLast c s := by
  intro h
  simpa using List.mem_rtakeWhile_imp h

theorem afterLast_append {c : Char} (s : List Char) {t : List Char} (ht : c ∉ t) :
    afterLast c (s ++ c :: t) = t := by
  induction t using List.reverseRecOn with
  | nil => exact List.rtakeWhile_concat_neg _ s c (by simp)
  | append_singleton t x ih =>
      have hx : x ≠ c := fun h => ht (by simp [h])
      have hcons : s ++ c :: (t ++ [x]) = (s ++ c :: t) ++ [x] := by simp
      unfold afterLast at ih ⊢
      rw [hcons, List.rtakeWhile_concat_pos _ _ x (by simpa using hx),
        ih (fun h => ht (List.mem_append_left [x] h))]

theorem upToLast_concat (c : Char) (s : List Char) : upToLast c (s ++ [c]) = s := by
  unfold upToLast
  rw [if_pos (by simp), List.rdropWhile_concat_neg _ s c (by simp), List.dropLast_concat]

theorem upToLast_subset (c : Char) (s : List Char) : upToLast c s ⊆ s := by
  unfold upToLast
  split
  · exact List.Subset.trans (List.dropLast_subset _) ( List.rdropWhile_prefix _ s).subset
  · exact List.Subset.refl s

/-! ## Lines -/

/-- A file that is being read: what is left of it, and the flags of the stream. -/
structure Stream where
  rest : List Char
  eof : Bool := false
  fail : Bool := false
  deriving DecidableEq

/-- `getline`: the buffer, which has room for less than `n` characters of a line, and
the stream. A line that is longer sets the flag for failure, as does a read at the
end. -/
def Stream.getline (n : Nat) (s : Stream) : List Char × Stream :=
  if s.eof || s.fail then ([], { s with fail := true })
  else if n ≤ (s.rest.takeWhile (· ≠ '\n')).length then
    (s.rest.take (n - 1), { rest := s.rest.drop (n - 1), fail := true })
  else
    match s.rest.dropWhile (· ≠ '\n') with
    | [] => (s.rest, { rest := [], eof := true, fail := s.rest.isEmpty })
    | _ :: rest => (s.rest.takeWhile (· ≠ '\n'), { rest := rest })

/-- How often a stream can be read before it fails. -/
def Stream.left (s : Stream) : Nat :=
  if s.fail then 0 else if s.eof then 1 else s.rest.length + 2

theorem Stream.getline_left (n : Nat) {s : Stream} (hs : ¬ s.fail = true) :
    (s.getline n).2.left < s.left := by
  have hfail : s.fail = false := by simpa using hs
  unfold getline
  by_cases heof : s.eof = true
  · simp [left, heof, hfail]
  · have heof' : s.eof = false := by simpa using heof
    by_cases hlong : n ≤ (s.rest.takeWhile (· ≠ '\n')).length
    · simp only [heof', hfail, Bool.or_self, Bool.false_eq_true, if_false, if_pos hlong]
      simp [left, heof', hfail]
    · simp only [heof', hfail, Bool.or_self, Bool.false_eq_true, if_false, if_neg hlong]
      have hdrop := (List.dropWhile_suffix (l := s.rest) fun c => decide (c ≠ '\n')).length_le
      cases hrest : s.rest.dropWhile (· ≠ '\n') with
      | nil => cases hempty : s.rest.isEmpty <;> simp [left, heof', hfail]
      | cons c rest =>
          rw [hrest, List.length_cons] at hdrop
          simp only [left, hfail, heof', Bool.false_eq_true, if_false]
          omega

theorem Stream.getline_line {n : Nat} {l : List Char} (hl : '\n' ∉ l) (hshort : l.length < n)
    (rest : List Char) :
    ({ rest := l ++ '\n' :: rest } : Stream).getline n = (l, { rest := rest }) := by
  have hall : ∀ c ∈ l, decide (c ≠ '\n') = true := fun c hc => by
    simpa using fun h : c = '\n' => hl (h ▸ hc)
  simp only [getline, List.takeWhile_append_of_pos hall, List.dropWhile_append_of_pos hall]
  simp [Nat.not_le.mpr hshort]

/-- A line at the end of the file. -/
theorem Stream.getline_last {n : Nat} {l : List Char} (hl : '\n' ∉ l) (hshort : l.length < n) :
    ({ rest := l } : Stream).getline n = (l, { rest := [], eof := true, fail := l.isEmpty }) := by
  have hall : ∀ c ∈ l, decide (c ≠ '\n') = true := fun c hc => by
    simpa using fun h : c = '\n' => hl (h ▸ hc)
  have htake : l.takeWhile (fun c => decide (c ≠ '\n')) = l := List.takeWhile_eq_self_iff.mpr hall
  have hdrop : l.dropWhile (fun c => decide (c ≠ '\n')) = [] := List.dropWhile_eq_nil_iff.mpr hall
  simp only [getline, htake, hdrop]
  simp [Nat.not_le.mpr hshort]

theorem Stream.getline_long {n : Nat} {l : List Char} (hl : '\n' ∉ l) (hlong : n ≤ l.length)
    (rest : List Char) :
    (({ rest := l ++ rest } : Stream).getline n).1 = l.take (n - 1) ∧
      (({ rest := l ++ rest } : Stream).getline n).2.fail = true := by
  have hall : ∀ c ∈ l, decide (c ≠ '\n') = true := fun c hc => by
    simpa using fun h : c = '\n' => hl (h ▸ hc)
  have hle : n ≤ ((l ++ rest).takeWhile fun c => decide (c ≠ '\n')).length := by
    rw [List.takeWhile_append_of_pos hall, List.length_append]
    omega
  simp only [getline, if_pos hle]
  simp [List.take_append_of_le_length (show n - 1 ≤ l.length by omega)]

section Loop

variable {σ : Type}

/-- The loop `while (in) { in.getline(buf, n); … }`. -/
def getlines (n : Nat) (body : σ → List Char → σ) (s : Stream) (x : σ) : σ :=
  if s.fail then x
  else getlines n body (s.getline n).2 (body x (s.getline n).1)
termination_by s.left
decreasing_by
  rename_i h
  exact Stream.getline_left n h

/-- The text with the given lines; the last one may do without a newline. -/
def unlines (final : Bool) : List (List Char) → List Char
  | [] => []
  | [l] => if final then l ++ ['\n'] else l
  | l :: ls => l ++ '\n' :: unlines final ls

/-- A line is ended by a newline, unless it is the last one. -/
theorem unlines_cons (final : Bool) (l : List Char) (ls : List (List Char)) :
    unlines final (l :: ls) = l ++ '\n' :: unlines final ls ∨
      ls = [] ∧ unlines final (l :: ls) = l := by
  cases ls with
  | cons m ls => exact .inl rfl
  | nil =>
      cases final with
      | true => exact .inl rfl
      | false => exact .inr ⟨rfl, rfl⟩

/-- The lines up to the first one of `n` characters or more. -/
def untilLong (n : Nat) : List (List Char) → List (List Char)
  | [] => []
  | l :: ls => if l.length < n then l :: untilLong n ls else [l]

theorem untilLong_singleton (n : Nat) (l : List Char) : untilLong n [l] = [l] := by
  unfold untilLong
  split
  · rfl
  · rfl

/-- What a buffer for less than `n` characters gets of a line. -/
def buffer (n : Nat) (l : List Char) : List Char := l.take (n - 1)

theorem buffer_of_short {n : Nat} {l : List Char} (h : l.length < n) : buffer n l = l :=
  List.take_of_length_le (by omega)

theorem map_buffer_of_short {n : Nat} {ls : List (List Char)} (h : ∀ l ∈ ls, l.length < n) :
    ls.map (buffer n) = ls := by
  rw [List.map_congr_left fun l hl => buffer_of_short (h l hl), List.map_id']

theorem buffer_length_lt {n : Nat} {l : List Char} (h : n ≤ l.length) (hl : l ≠ []) :
    (buffer n l).length < l.length := by
  have hpos := List.length_pos_iff.mpr hl
  unfold buffer
  rw [List.length_take]
  omega

theorem buffer_isPrefix (n : Nat) (l : List Char) : buffer n l <+: l := List.take_prefix _ _

theorem untilLong_append {n : Nat} {ls : List (List Char)} (h : ∀ l ∈ ls, l.length < n)
    (ms : List (List Char)) : untilLong n (ls ++ ms) = ls ++ untilLong n ms := by
  induction ls with
  | nil => rfl
  | cons l ls ih =>
      simp only [List.cons_append, untilLong]
      rw [if_pos (h l List.mem_cons_self), ih fun m hm => h m (List.mem_cons_of_mem l hm)]

theorem untilLong_of_short {n : Nat} {ls : List (List Char)} (h : ∀ l ∈ ls, l.length < n) :
    untilLong n ls = ls := by
  have happend := untilLong_append h []
  rwa [List.append_nil, untilLong, List.append_nil] at happend

theorem untilLong_append_of_long {n : Nat} {ls : List (List Char)}
    (h : ∃ l ∈ ls, n ≤ l.length) (ms : List (List Char)) :
    untilLong n (ls ++ ms) = untilLong n ls := by
  induction ls with
  | nil => simp at h
  | cons l ls ih =>
      simp only [List.cons_append, untilLong]
      by_cases hl : l.length < n
      · obtain ⟨m, hm, hlong⟩ := h
        rcases List.mem_cons.mp hm with rfl | hm
        · omega
        · rw [if_pos hl, if_pos hl, ih ⟨m, hm, hlong⟩]
      · rw [if_neg hl, if_neg hl]

variable {n : Nat} {body : σ → List Char → σ} {s : Stream} {x : σ}

theorem getlines_fail (hs : s.fail = true) : getlines n body s x = x := by
  unfold getlines
  rw [if_pos hs]

theorem getlines_next (hs : s.fail = false) :
    getlines n body s x = getlines n body (s.getline n).2 (body x (s.getline n).1) := by
  rw [getlines, hs]
  rfl

/-- The end of the file: one more turn, with an empty buffer. -/
theorem getlines_end (hbody : ∀ x, body x [] = x) (heof : Bool) :
    getlines n body { rest := [], eof := heof } x = x := by
  rw [getlines_next rfl]
  cases heof <;> cases n <;> simp [Stream.getline, hbody, getlines_fail]

/-- The loop handles what the buffer gets of each line up to the first one that is too
long. -/
theorem getlines_unlines (hbody : ∀ x, body x [] = x) (final : Bool) (ls : List (List Char))
    (hls : ∀ l ∈ ls, '\n' ∉ l) :
    getlines n body { rest := unlines final ls } x =
      ((untilLong n ls).map (buffer n)).foldl body x := by
  induction ls generalizing x with
  | nil => exact getlines_end hbody false
  | cons l ls ih =>
      have hl := hls l List.mem_cons_self
      have hrest := fun x => ih (x := x) (fun m hm => hls m (List.mem_cons_of_mem l hm))
      by_cases hshort : l.length < n
      · -- the line is handled as it stands
        have hturn : getlines n body { rest := unlines final (l :: ls) } x =
            getlines n body { rest := unlines final ls } (body x l) := by
          rcases unlines_cons final l ls with hline | ⟨rfl, hlast⟩
          · rw [hline, getlines_next rfl, Stream.getline_line hl hshort]
          · have hend := getlines_end (n := n) (x := body x l) hbody
            rw [hlast, getlines_next rfl, Stream.getline_last hl hshort]
            cases l with
            | nil => rw [getlines_fail rfl, unlines, hend false]
            | cons c l => exact (hend true).trans (hend false).symm
        rw [hturn, hrest, untilLong, if_pos hshort, List.map_cons, List.foldl_cons,
          buffer_of_short hshort]
      · -- the first line that is too long sets the fail bit: no turn follows
        have hlong : n ≤ l.length := Nat.le_of_not_lt hshort
        obtain ⟨rest, htext⟩ : ∃ rest, unlines final (l :: ls) = l ++ rest := by
          rcases unlines_cons final l ls with hline | ⟨rfl, hlast⟩
          · exact ⟨_, hline⟩
          · exact ⟨[], by rw [hlast, List.append_nil]⟩
        obtain ⟨hbuf, hfail⟩ := Stream.getline_long hl hlong rest
        rw [htext, getlines_next rfl, hbuf, getlines_fail hfail, untilLong, if_neg hshort]
        rfl

end Loop

end Lib.Text

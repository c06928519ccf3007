import ScadaSim.Traffic.ProfileFile

/-!
# The lines of a profile

What the tests of `initialize` make of the lines that a file of profiles has: of
`<Tag><value>` lines with a number or a label, of the lines that open and close a profile,
and of comments.

A `Vocabulary` says how the tags are spelled. The parser's own one is `parserTags`; in
`shippedTags` two tags are spelled as in `simulations/traffic_profiles.parameters`.
-/

namespace ScadaSim.Traffic

open Lib.Text Lib.Number

/-! ## Tags in a line -/

/-- A name that can stand in a tag. -/
def TagName (n : List Char) : Prop := '<' ∉ n ∧ '>' ∉ n

instance (n : List Char) : Decidable (TagName n) := inferInstanceAs (Decidable (_ ∧ _))

/-- A tag is found in `<name><v>` as the name, or else in the value. -/
theorem tag_infix_entry_iff {n name indent : List Char} (hn : TagName n) (hname : TagName name)
    (hindent : '<' ∉ indent) (v : List Char) :
    tag n <:+: indent ++ (tag name ++ tag v) ↔
      n = name ∨ n ++ ['>'] <+: v ++ ['>'] ∨ tag n <:+: v ++ ['>'] := by
  have hrest : '<' ∉ name ++ ['>'] := by simp [hname.1]
  have hshape : tag name ++ tag v = '<' :: (name ++ '>' :: '<' :: (v ++ ['>'])) := by
    simp [tag]
  have hmore : name ++ '>' :: '<' :: (v ++ ['>']) = (name ++ ['>']) ++ '<' :: (v ++ ['>']) := by
    simp
  have hpattern : tag n = '<' :: (n ++ ['>']) := rfl
  rw [hshape, hpattern, infix_append_iff hindent, infix_cons_self_iff,
    concat_prefix_iff hn.2 hname.2, hmore, infix_append_iff hrest, infix_cons_self_iff]

/-- A value without '<' is what `GET_OFFSET` returns. -/
theorem GET_OFFSET_entry (s : List Char) {v : List Char} (hv : '<' ∉ v) :
    GET_OFFSET (s ++ tag v) = some v := by
  have hend : '<' ∉ v ++ ['>'] := by simp [hv]
  unfold GET_OFFSET tag
  rw [if_pos (by simp), afterLast_append s hend, upToLast_concat]

/-- Where a tag is found, `GET_OFFSET` has something to return. -/
theorem GET_OFFSET_of_tag {n s : List Char} (h : tag n <:+: s) :
    ∃ text, GET_OFFSET s = some text ∧ '<' ∉ text ∧ text ⊆ s := by
  have hlt : '<' ∈ s := h.subset List.mem_cons_self
  refine ⟨_, if_pos hlt, ?_, ?_⟩
  · exact fun hmem => not_mem_afterLast '<' s (upToLast_subset '>' _ hmem)
  · exact List.Subset.trans (upToLast_subset '>' _) (List.rtakeWhile_suffix _ s).subset

/-! ## The tests -/

theorem find_tests {p : ProfileField → Bool} {f : ProfileField} (h : ∀ g, p g = true ↔ g = f) :
    ProfileField.tests.find? p = some f := by
  have hp : p = fun g => decide (g = f) := by
    funext g
    rw [Bool.eq_iff_iff, h g, decide_eq_true_iff]
  rw [hp]
  cases f <;> decide

/-- Without '<' a line asks for nothing. -/
theorem demandOf_of_not_mem {s : List Char} (h : '<' ∉ s) : demandOf s = .nothing := by
  have hnone (n : List Char) : strstr s (tag n) = false :=
    strstr_eq_false_iff.mpr (not_infix_of_not_mem h)
  have hfind : (ProfileField.tests.find? fun f => strstr s (tag f.name.toList)) = none := by
    simp [hnone]
  unfold demandOf
  rw [hfind]
  simp [hnone]

theorem demandOf_of_comment {s : List Char} (h : '#' ∈ s) : demandOf s = .nothing := by
  unfold demandOf
  rw [if_pos (strstr_iff.mpr (singleton_infix_iff.mpr h))]

/-- Only a closing tag closes. -/
theorem infix_of_finish {s : List Char} (h : demandOf s = .finish) :
    tag "/Profile".toList <:+: s := by
  unfold demandOf at h
  split at h
  · cases h
  · split at h
    · cases h
    · split at h
      · cases h
      · split at h
        · rename_i hclose
          exact strstr_iff.mp hclose
        · cases h

/-- A line with the tag for the label sets the label, unless it has one of the tags that
are looked for before. -/
theorem demandOf_of_label {s : List Char} (h : tag "Label".toList <:+: s) :
    demandOf s =
      if '#' ∈ s then .nothing
      else if tag "Profile".toList <:+: s then .begin
      else .set (if tag "Id".toList <:+: s then .id else .label) ((GET_OFFSET s).getD []) := by
  have hlabel : strstr s (tag ProfileField.label.name.toList) = true := strstr_iff.mpr h
  have hfind : (ProfileField.tests.find? fun f => strstr s (tag f.name.toList)) =
      some (if tag "Id".toList <:+: s then .id else .label) := by
    unfold ProfileField.tests
    by_cases hid : tag "Id".toList <:+: s
    · rw [if_pos hid]
      exact List.find?_cons_of_pos (strstr_iff.mpr hid)
    · have hno : ¬ strstr s (tag ProfileField.id.name.toList) = true :=
        fun hp => hid (strstr_iff.mp hp)
      rw [if_neg hid, List.find?_cons_of_neg (by exact hno),
        List.find?_cons_of_pos (by exact hlabel)]
  unfold demandOf
  rw [hfind]
  simp only [strstr_iff, singleton_infix_iff]

/-! ## Vocabularies -/

/-- How the tags are spelled: with letters, never as another field's tag, and for the id,
the label and the port as the parser does. -/
structure Vocabulary where
  spell : ProfileField → String
  letters : ∀ f, ∀ c ∈ (spell f).toList, c.isAlpha = true
  own : ∀ f g : ProfileField, spell f = g.name → f = g
  spell_ne : ∀ f, spell f ≠ "Profile"
  id : spell .id = "Id"
  label : spell .label = "Label"
  port : spell .port = "Port"

/-- The tags that `initialize` tests for. -/
def parserTags : Vocabulary where
  spell := ProfileField.name
  letters f := by
    refine List.all_eq_true.mp ?_
    cases f <;> rfl
  own := by
    intro f g h
    cases f <;> cases g <;> first | rfl | exact absurd h (by decide)
  spell_ne := by
    intro f
    cases f <;> decide
  id := rfl
  label := rfl
  port := rfl

/-- The tags of the file that comes with the simulations. -/
def shippedTags : Vocabulary where
  spell
    | .requestsPerSession => "RequestsPerSession"
    | .hopLimit => "Hoplimit"
    | f => f.name
  letters f := by
    refine List.all_eq_true.mp ?_
    cases f <;> rfl
  own := by
    intro f g h
    cases f <;> cases g <;> first | rfl | exact absurd h (by decide)
  spell_ne := by
    intro f
    cases f <;> decide
  id := rfl
  label := rfl
  port := rfl

namespace Vocabulary

/-- The line `<Tag><value>` for a field, behind some blanks. -/
def entry (w : Vocabulary) (indent : List Char) (f : ProfileField) (v : List Char) : List Char :=
  indent ++ (tag (w.spell f).toList ++ tag v)

end Vocabulary

/-- Spaces and tabs. -/
def Blank (indent : List Char) : Prop := ∀ c ∈ indent, c = ' ' ∨ c = '\t'

theorem blank_nil : Blank [] := nofun

theorem Blank.not_mem {indent : List Char} (h : Blank indent) {c : Char}
    (hc : c ≠ ' ' ∧ c ≠ '\t') : c ∉ indent := by
  intro hmem
  rcases h c hmem with heq | heq
  · exact hc.1 heq
  · exact hc.2 heq

namespace Vocabulary

variable (w : Vocabulary) {f : ProfileField} {indent v : List Char}

theorem tagName (f : ProfileField) : TagName (w.spell f).toList := by
  constructor
  · intro hmem
    exact absurd (w.letters f '<' hmem) (by decide)
  · intro hmem
    exact absurd (w.letters f '>' hmem) (by decide)

/-- A character that is no letter, no blank and no bracket is in the value. -/
theorem mem_value (hindent : Blank indent) {c : Char}
    (hc : c.isAlpha = false ∧ c ≠ ' ' ∧ c ≠ '\t' ∧ c ≠ '<' ∧ c ≠ '>')
    (h : c ∈ w.entry indent f v) : c ∈ v := by
  obtain ⟨hletter, hspace, htab, hlt, hgt⟩ := hc
  have hname : c ∉ (w.spell f).toList := by
    intro hmem
    rw [w.letters f c hmem] at hletter
    cases hletter
  have hblank := hindent.not_mem ⟨hspace, htab⟩
  simp only [entry, tag, List.mem_append, List.mem_cons, List.not_mem_nil, or_false] at h
  tauto

/-! ### Numbers -/

/-- A value that is taken for no tag: it has the characters of numerals, and it is none of
the names that the tests look for. -/
structure Numeral (v : List Char) : Prop where
  chars : ∀ c ∈ v, isNumberChar c = true
  name_ne : ∀ f : ProfileField, f.name.toList ≠ v
  begin_ne : "Profile".toList ≠ v

section Numeral

variable {α : Type} {read : List Char → Option (α × List Char)} {a : α}

/-- What is read to its end is no name, since no name can be read. -/
theorem numeral_of_readAs (hread : ∀ {s x}, read s = some x → Taken s x.2)
    (hname : ∀ f : ProfileField, read f.name.toList = none)
    (hbegin : read "Profile".toList = none) (h : ReadAs read v a) : Numeral v := by
  have hsome : read v ≠ none := by
    obtain ⟨rest, hv, -⟩ := h
    rw [hv]
    exact Option.some_ne_none _
  exact
    { chars := h.isNumberChar hread
      name_ne := fun f heq => hsome (heq ▸ hname f)
      begin_ne := fun heq => hsome (heq ▸ hbegin) }

theorem numeral_of_strtol {n : Int} (h : ReadAs strtol v n) : Numeral v :=
  numeral_of_readAs taken_strtol (fun f => by cases f <;> rfl) rfl h

theorem numeral_of_strtod {x : Value} (h : ReadAs strtod v x) : Numeral v :=
  numeral_of_readAs taken_strtod (fun f => by cases f <;> rfl) rfl h

end Numeral

theorem Numeral.not_mem (hv : Numeral v) {c : Char} (hc : isNumberChar c = false) : c ∉ v := by
  intro hmem
  rw [hv.chars c hmem] at hc
  cases hc

/-- In a line with a number a tag is found only as the tag of the line. -/
theorem tag_infix_number_iff (hindent : Blank indent) (hv : Numeral v) {n : List Char}
    (hn : TagName n) (hne : n ≠ v) :
    tag n <:+: w.entry indent f v ↔ n = (w.spell f).toList := by
  have hlt : '<' ∉ v ++ ['>'] := by simp [hv.not_mem (c := '<') (by decide)]
  have hgt : '>' ∉ v := hv.not_mem (by decide)
  unfold entry
  rw [tag_infix_entry_iff hn (w.tagName f) (hindent.not_mem (by decide)),
    concat_prefix_iff hn.2 hgt]
  constructor
  · rintro (h | rfl | h)
    · exact h
    · exact absurd rfl hne
    · exact absurd h (not_infix_of_not_mem hlt)
  · exact .inl

/-- What a line with a number asks for: nothing, when its tag is not one of the
parser's. -/
theorem demand_number (hindent : Blank indent) (hv : Numeral v) :
    demand (w.entry indent f v) = if w.spell f = f.name then .set f v else .nothing := by
  have hnul : '\x00' ∉ w.entry indent f v := fun hmem =>
    hv.not_mem (by decide) (w.mem_value hindent (by decide) hmem)
  have hcomment : ¬ strstr (w.entry indent f v) ['#'] = true := by
    rw [strstr_iff, singleton_infix_iff]
    exact fun hmem => hv.not_mem (by decide) (w.mem_value hindent (by decide) hmem)
  have hbegin : ¬ strstr (w.entry indent f v) (tag "Profile".toList) = true := by
    rw [strstr_iff, w.tag_infix_number_iff hindent hv (by decide) hv.begin_ne]
    exact fun h => w.spell_ne f (String.toList_inj.mp h).symm
  have hclose : ¬ strstr (w.entry indent f v) (tag "/Profile".toList) = true := by
    have hne : "/Profile".toList ≠ v := fun heq =>
      hv.not_mem (c := '/') (by decide) (heq ▸ List.mem_cons_self)
    rw [strstr_iff, w.tag_infix_number_iff hindent hv (by decide) hne]
    intro h
    exact absurd (w.letters f '/' (h ▸ by decide)) (by decide)
  -- in a line with a number the only tag is its own
  have htest (g : ProfileField) :
      strstr (w.entry indent f v) (tag g.name.toList) = true ↔ w.spell f = g.name := by
    rw [strstr_iff, w.tag_infix_number_iff hindent hv (n := g.name.toList) (parserTags.tagName g)
      (hv.name_ne g), String.toList_inj, eq_comm]
  unfold demand demandOf
  rw [cstr_eq_self hnul, if_neg hcomment, if_neg hbegin]
  by_cases hknown : w.spell f = f.name
  · have hfind : (ProfileField.tests.find? fun g =>
        strstr (w.entry indent f v) (tag g.name.toList)) = some f := by
      refine find_tests fun g => ?_
      rw [htest g]
      constructor
      · exact fun h => (w.own f g h).symm
      · rintro rfl
        exact hknown
    have hvalue : GET_OFFSET (w.entry indent f v) = some v := by
      unfold entry
      rw [← List.append_assoc, GET_OFFSET_entry _ (hv.not_mem (by decide))]
    rw [if_pos hknown, hfind, hvalue]
    rfl
  · have hfind : (ProfileField.tests.find? fun g =>
        strstr (w.entry indent f v) (tag g.name.toList)) = none := by
      rw [List.find?_eq_none]
      intro g _ hg
      have hspell := (htest g).mp hg
      exact hknown (w.own f g hspell ▸ hspell)
    rw [if_neg hknown, hfind]
    exact if_neg hclose

/-! ### Labels -/

/-- The labels that are read as they are written. -/
structure Readable (v : List Char) : Prop where
  comment : '#' ∉ v
  bracket : '<' ∉ v
  nul : '\x00' ∉ v
  id : ¬ "Id>".toList <+: v ++ ['>']
  begin : ¬ "Profile>".toList <+: v ++ ['>']

theorem tag_label_infix (hindent : Blank indent) (v : List Char) :
    tag "Label".toList <:+: cstr (w.entry indent .label v) := by
  have hnul : '\x00' ∉ indent ++ tag "Label".toList := by
    rw [List.mem_append, not_or]
    exact ⟨hindent.not_mem (by decide), by decide⟩
  unfold entry
  rw [w.label, ← List.append_assoc, cstr_append hnul]
  exact ⟨indent, cstr (tag v), rfl⟩

/-- A label's line does not close a profile. -/
theorem label_ne_finish (hindent : Blank indent) (v : List Char) :
    demand (w.entry indent .label v) ≠ .finish := by
  intro h
  unfold demand at h
  rw [demandOf_of_label (w.tag_label_infix hindent v)] at h
  split at h
  · cases h
  · split at h <;> cases h

/-- A label's line sets the id or the label, if it sets anything. -/
theorem label_of_demand (hindent : Blank indent) {field : ProfileField} {text : List Char}
    (h : demand (w.entry indent .label v) = .set field text) : field = .id ∨ field = .label := by
  unfold demand at h
  rw [demandOf_of_label (w.tag_label_infix hindent v)] at h
  split at h
  · cases h
  · split at h
    · cases h
    · cases h
      split
      · exact .inl rfl
      · exact .inr rfl

/-- The label is set as it is written just when it is readable. -/
theorem demand_label_iff (hindent : Blank indent) :
    demand (w.entry indent .label v) = .set .label v ↔ Readable v := by
  have hlabel := w.tag_label_infix hindent v
  -- any other tag would have to begin in the value
  have hfound {n : List Char} (hn : TagName n) (hlt : '<' ∉ v) (hne : n ≠ "Label".toList) :
      tag n <:+: w.entry indent .label v ↔ n ++ ['>'] <+: v ++ ['>'] := by
    have hend : '<' ∉ v ++ ['>'] := by simp [hlt]
    have hname : n ≠ (w.spell .label).toList := w.label ▸ hne
    have hnone : ¬ tag n <:+: v ++ ['>'] := not_infix_of_not_mem hend
    unfold entry
    rw [tag_infix_entry_iff hn (w.tagName .label) (hindent.not_mem (by decide))]
    tauto
  have hnul : '\x00' ∉ v → cstr (w.entry indent .label v) = w.entry indent .label v := fun hv =>
    cstr_eq_self fun hmem => hv (w.mem_value hindent (by decide) hmem)
  unfold demand
  rw [demandOf_of_label hlabel]
  constructor
  · intro h
    obtain ⟨text, htext, hlt, hsub⟩ := GET_OFFSET_of_tag hlabel
    rw [htext] at h
    split at h
    · cases h
    rename_i hcomment
    split at h
    · cases h
    rename_i hbegin
    split at h
    · cases h
    rename_i hid
    have heq : text = v := by simpa using h
    subst heq
    have hv : '\x00' ∉ text := fun hmem => not_mem_cstr _ (hsub hmem)
    rw [hnul hv] at hbegin hid
    rw [hfound (by decide) hlt (by decide)] at hbegin hid
    exact ⟨fun hmem => hcomment (hsub hmem), hlt, hv, hid, hbegin⟩
  · rintro ⟨hcomment, hlt, hv, hid, hbegin⟩
    have hvalue : GET_OFFSET (w.entry indent .label v) = some v := by
      unfold entry
      rw [← List.append_assoc, GET_OFFSET_entry _ hlt]
    rw [hnul hv, if_neg fun hmem => hcomment (w.mem_value hindent (by decide) hmem),
      if_neg fun hp => hbegin ((hfound (by decide) hlt (by decide)).mp hp),
      if_neg fun hp => hid ((hfound (by decide) hlt (by decide)).mp hp), hvalue]
    rfl

end Vocabulary

/-! ## The other lines -/

/-- A line that is no concern of the parser: one without a tag, or a comment. A '#' behind a
NUL makes no comment, since `strstr` does not come to it. -/
def Remark (l : List Char) : Prop := '\n' ∉ l ∧ ('<' ∉ l ∨ '#' ∈ cstr l)

theorem demand_remark {l : List Char} (h : Remark l) : demand l = .nothing := by
  rcases h.2 with hlt | hcomment
  · exact demandOf_of_not_mem (not_mem_of_isPrefix (cstr_isPrefix l) hlt)
  · exact demandOf_of_comment hcomment

section Delimiters

variable {indent : List Char}

/-- Any tag is found in a line of one tag only as the tag of the line. -/
theorem tag_infix_tag_iff {n name : List Char} (hn : TagName n) (hname : TagName name)
    (hindent : Blank indent) : tag n <:+: indent ++ tag name ↔ n = name := by
  have hlt : '<' ∉ name ++ ['>'] := by simp [hname.1]
  have hpattern : tag n = '<' :: (n ++ ['>']) := rfl
  have hline : tag name = '<' :: (name ++ '>' :: []) := rfl
  rw [hpattern, hline, infix_append_iff (hindent.not_mem (by decide)), infix_cons_self_iff,
    concat_prefix_iff hn.2 hname.2, or_iff_left (not_infix_of_not_mem hlt)]

theorem not_mem_delimiter (hindent : Blank indent) {n : List Char} {c : Char} (hn : c ∉ tag n)
    (hc : c ≠ ' ' ∧ c ≠ '\t') : c ∉ indent ++ tag n := by
  rw [List.mem_append, not_or]
  exact ⟨hindent.not_mem hc, hn⟩

theorem demand_open (hindent : Blank indent) :
    demand (indent ++ tag "Profile".toList) = .begin := by
  have hnul := not_mem_delimiter hindent (n := "Profile".toList) (c := '\x00') (by decide)
    (by decide)
  have hcomment := not_mem_delimiter hindent (n := "Profile".toList) (c := '#') (by decide)
    (by decide)
  unfold demand demandOf
  rw [cstr_eq_self hnul, if_neg fun h => hcomment (singleton_infix_iff.mp (strstr_iff.mp h)),
    if_pos (strstr_iff.mpr ((tag_infix_tag_iff (by decide) (by decide) hindent).mpr rfl))]

theorem demand_close (hindent : Blank indent) :
    demand (indent ++ tag "/Profile".toList) = .finish := by
  have hnul := not_mem_delimiter hindent (n := "/Profile".toList) (c := '\x00') (by decide)
    (by decide)
  have hcomment := not_mem_delimiter hindent (n := "/Profile".toList) (c := '#') (by decide)
    (by decide)
  have hfound {n : List Char} (hn : TagName n) :
      strstr (indent ++ tag "/Profile".toList) (tag n) = true ↔ n = "/Profile".toList := by
    rw [strstr_iff, tag_infix_tag_iff hn (by decide) hindent]
  have hfind : (ProfileField.tests.find? fun f =>
      strstr (indent ++ tag "/Profile".toList) (tag f.name.toList)) = none := by
    rw [List.find?_eq_none]
    intro f _ hf
    have hname := (hfound (parserTags.tagName f)).mp hf
    exact absurd (parserTags.letters f '/' (hname ▸ by decide)) (by decide)
  unfold demand demandOf
  rw [cstr_eq_self hnul, if_neg fun h => hcomment (singleton_infix_iff.mp (strstr_iff.mp h)),
    if_neg fun h => absurd ((hfound (by decide)).mp h) (by decide), hfind]
  exact if_pos ((hfound (by decide)).mpr rfl)

/-- A closing line does not close a profile when it is cut off. -/
theorem close_ne_finish (hindent : Blank indent) {s : List Char}
    (hs : s <+: indent ++ tag "/Profile".toList)
    (hcut : s.length < (indent ++ tag "/Profile".toList).length) : demandOf s ≠ .finish := by
  intro h
  have hfound := infix_of_finish h
  have hlt : '<' ∉ indent := hindent.not_mem (by decide)
  rcases List.prefix_or_prefix_of_prefix hs (List.prefix_append indent _) with hblank | hbegun
  · exact not_infix_of_not_mem (not_mem_of_isPrefix hblank hlt) hfound
  · obtain ⟨rest, rfl⟩ := hbegun
    have hrest : tag "/Profile".toList <:+: rest := (infix_append_iff hlt).mp hfound
    have hle := hrest.length_le
    simp only [List.length_append] at hcut
    omega

end Delimiters

end ScadaSim.Traffic

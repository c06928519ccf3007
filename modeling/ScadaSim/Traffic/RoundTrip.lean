import ScadaSim.Traffic.KeptBlocks

/-!
# Profiles that are written and read

A `ProfileListing` is a file in which each profile of a list is written as a block, with
the parser's own tags. Reading the file should give the list back, with the defaults in
the fields that were not written. `roundTrip_iff` says for which labels it does: `<Id>` and
`<Profile>` are looked for before `<Label>`, and a C string ends at a NUL.
-/

namespace ScadaSim.Traffic

open Lib.Text Lib.Number

/-- A profile and the block that it is written as: each entry has the value of its field,
and the label and the id are there. The whole numbers are those of type `int`; a port
that is 0 stands for none, and the label has none of the characters that the format is
made of. -/
structure WrittenProfile (env : Platform) where
  profile : TrafficProfile
  block : ProfileBlock
  complete : block.Complete
  values : block.WrittenIn env profile
  isInt : ∀ f n, profile.get f = .int n → IsInt n
  id_ne : profile.profileID ≠ -1
  port_ne : profile.ownPort ≠ 0
  label_ne : profile.label ≠ "unspec"
  plain : ∀ c ∈ profile.label.toList, c ≠ '<' ∧ c ≠ '>' ∧ c ≠ '#' ∧ c ≠ '\n'

/-- A file of profiles, with remarks between them; all lines fit into the buffer. -/
structure ProfileListing (env : Platform) where
  parts : List ({ l // Remark l } ⊕ WrittenProfile env)
  short : ∀ part ∈ parts, (part.elim FileItem.remark fun p => .block p.block).Short parserTags

namespace ProfileListing

variable {env : Platform}

def profiles (file : ProfileListing env) : List (WrittenProfile env) :=
  file.parts.filterMap Sum.getRight?

def items (file : ProfileListing env) : List FileItem :=
  file.parts.map fun part => part.elim FileItem.remark fun p => .block p.block

end ProfileListing

namespace WrittenProfile

variable {env : Platform} (p : WrittenProfile env)

/-- The fields that are written. -/
def fields : List ProfileField := p.block.entries.map ProfileEntry.field

/-- The profile that was read has the fields that were written, and else the defaults; a
port that was not written may be any. -/
def Restored (t : TrafficProfile) : Prop :=
  ∀ f, (f ∈ p.fields → t.get f = p.profile.get f) ∧
    (f ∉ p.fields → f ≠ .port → t.get f = ({} : TrafficProfile).get f)

/-- The label can be told from the tags that are looked for before its own, and it is a
C string. -/
def PlainLabel : Prop :=
  p.profile.label ≠ "Id" ∧ p.profile.label ≠ "Profile" ∧ '\x00' ∉ p.profile.label.toList

variable {p}

theorem label_value {e : ProfileEntry} (he : e ∈ p.block.entries) (h : e.field = .label) :
    p.profile.label.toList = e.value := by
  have hvalue := p.values e he
  rw [h] at hvalue
  exact hvalue

/-- A tag is found at the start of a label that is the name in it. -/
theorem label_prefix_iff {n : List Char} (hn : '>' ∉ n) :
    n ++ ['>'] <+: p.profile.label.toList ++ ['>'] ↔ n = p.profile.label.toList :=
  concat_prefix_iff hn (fun h => (p.plain '>' h).2.1 rfl) []

theorem readable_iff : Vocabulary.Readable p.profile.label.toList ↔ p.PlainLabel := by
  have hid : "Id>".toList <+: p.profile.label.toList ++ ['>'] ↔ p.profile.label = "Id" := by
    rw [← String.toList_inj, eq_comm]
    exact label_prefix_iff (n := "Id".toList) (by decide)
  have hbegin : "Profile>".toList <+: p.profile.label.toList ++ ['>'] ↔
      p.profile.label = "Profile" := by
    rw [← String.toList_inj, eq_comm]
    exact label_prefix_iff (n := "Profile".toList) (by decide)
  constructor
  · intro h
    exact ⟨fun heq => h.id (hid.mpr heq), fun heq => h.begin (hbegin.mpr heq), h.nul⟩
  · rintro ⟨hne, hne', hnul⟩
    exact ⟨fun h => (p.plain '#' h).2.2.1 rfl, fun h => (p.plain '<' h).1 rfl, hnul,
      fun h => hne (hid.mp h), fun h => hne' (hbegin.mp h)⟩

theorem formed : p.block.Formed := fun e he => TrafficProfile.formed_of_written (p.values e he)

/-- The texts are read as the values of the profile. -/
theorem read {e : ProfileEntry} (he : e ∈ p.block.entries) :
    e.field.Fits e.value ∧ e.field.read env e.value = p.profile.get e.field :=
  TrafficProfile.read_of_written (p.values e he) (p.isInt e.field)

theorem kept (h : p.PlainLabel) : p.block.Kept env parserTags where
  label e he hfield := by
    rw [← label_value he hfield]
    exact readable_iff.mpr h
  formed := p.formed
  unspec e he hfield := by
    rw [← label_value he hfield]
    exact fun heq => p.label_ne (String.toList_inj.mp heq)
  id e he hfield hminus := by
    obtain ⟨hfits, hvalue⟩ := p.read he
    rw [hfield] at hfits hvalue
    have hatoi : env.atoi e.value = p.profile.profileID := FieldValue.int.inj hvalue
    rw [env.atoi_of_isInt (hfits rfl), hminus] at hatoi
    exact p.id_ne hatoi.symm
  fits e he := (p.read he).1
  agree e he e' he' hfield := by rw [(p.read he).2, (p.read he').2, hfield]
  unknown _ _ hunknown := absurd rfl hunknown

theorem restored (h : p.PlainLabel) {t : TrafficProfile}
    (hr : p.block.Reads env parserTags t) : p.Restored t := by
  have hport : ∀ e ∈ p.block.entries, e.field = .port →
      ¬ (FieldValue.int 0).Written env e.value := by
    intro e he hfield hzero
    have hvalue := p.values e he
    rw [hfield] at hvalue
    exact p.port_ne (ReadAs.unique hvalue hzero)
  have hwritten := (kept h).written hport hr
  intro f
  constructor
  · intro hmem
    obtain ⟨e, he, rfl⟩ := List.mem_map.mp hmem
    exact TrafficProfile.get_of_written (hwritten e he) (p.values e he)
  · intro hmem hne
    rw [hr.get fun heq => absurd heq hne]
    exact (kept h).toLegible.get_default fun e he hfield _ =>
      hmem (List.mem_map.mpr ⟨e, he, hfield⟩)

theorem plainLabel_of_restored (ha : p.block.Accepted env parserTags) {t : TrafficProfile}
    (hr : p.block.Reads env parserTags t) (h : p.Restored t) : p.PlainLabel := by
  have hwritten : p.block.WrittenIn env t := by
    intro e he
    rw [(h e.field).1 (List.mem_map.mpr ⟨e, he, rfl⟩)]
    exact p.values e he
  have hkept := ProfileBlock.kept_of_written ha (fun e he _ => (p.read he).1) hr hwritten
  obtain ⟨l, hl, hfield⟩ := p.complete.label
  rw [← readable_iff, label_value hl hfield]
  exact hkept.label l hl hfield

end WrittenProfile

namespace ProfileListing

variable {env : Platform} (file : ProfileListing env)

theorem items_short : ∀ i ∈ file.items, i.Short parserTags := by
  intro i hi
  obtain ⟨part, hpart, rfl⟩ := List.mem_map.mp hi
  exact file.short part hpart

theorem items_formed : ∀ b, .block b ∈ file.items → b.Formed := by
  intro b hb
  obtain ⟨part, -, heq⟩ := List.mem_map.mp hb
  cases part with
  | inl r => cases heq
  | inr p =>
      cases heq
      exact p.formed

/-- All blocks are closed. -/
theorem closed_items :
    file.items.flatMap FileItem.closed = file.profiles.map WrittenProfile.block := by
  unfold items profiles
  induction file.parts with
  | nil => rfl
  | cons part parts ih =>
      rw [List.map_cons, List.flatMap_cons, ih]
      cases part with
      | inl r => rfl
      | inr p => simp [FileItem.closed, p.complete.closed]

/-- What is read from the file: the blocks that are accepted. -/
theorem reads (final : Bool) : List.Forall₂ (fun b t => b.Reads env parserTags t)
    ((file.profiles.map WrittenProfile.block).filter (·.Accepted env parserTags))
    (readProfiles env (fileText parserTags final file.items)) := by
  have hreads := readProfiles_file env file.items_short file.items_formed final
  rwa [file.closed_items] at hreads

end ProfileListing

/-- What is related to the same profiles by two relations is so element by element. -/
theorem exists_of_forall₂ {α β : Type} {R S : α → β → Prop} {l : List α} {u : List β}
    (hR : List.Forall₂ R l u) (hS : List.Forall₂ S l u) : ∀ a ∈ l, ∃ b, R a b ∧ S a b := by
  have hboth : List.Forall₂ (fun a b => (∃ b, R a b ∧ S a b) ∧ R a b) l u :=
    List.Forall₂.mp (fun _ b hR hS => ⟨⟨b, hR, hS⟩, hR⟩) hR hS
  exact ((List.forall₂_and_left l u).mp hboth).1

/-- Reading the file gives the list of profiles back just when no label is "Id" or
"Profile" or has a NUL in it. -/
theorem roundTrip_iff (env : Platform) (file : ProfileListing env) (final : Bool) :
    List.Forall₂ WrittenProfile.Restored file.profiles
        (readProfiles env (fileText parserTags final file.items)) ↔
      ∀ p ∈ file.profiles, p.PlainLabel := by
  have hreads := file.reads final
  constructor
  · intro hrestored p hp
    -- as many profiles have been read as there are, so that all blocks were accepted
    have hall : (file.profiles.map WrittenProfile.block).filter (·.Accepted env parserTags) =
        file.profiles.map WrittenProfile.block := by
      refine List.filter_sublist.eq_of_length ?_
      rw [hreads.length_eq, ← hrestored.length_eq, List.length_map]
    rw [hall, List.forall₂_map_left_iff] at hreads
    obtain ⟨t, hr, ht⟩ := exists_of_forall₂ hreads hrestored p hp
    have hmem : p.block ∈ (file.profiles.map WrittenProfile.block).filter
        (·.Accepted env parserTags) := by
      rw [hall]
      exact List.mem_map_of_mem hp
    exact WrittenProfile.plainLabel_of_restored (by simpa using (List.mem_filter.mp hmem).2) hr ht
  · intro hplain
    have hall : (file.profiles.map WrittenProfile.block).filter (·.Accepted env parserTags) =
        file.profiles.map WrittenProfile.block := by
      refine List.filter_eq_self.mpr ?_
      intro b hb
      obtain ⟨p, hp, rfl⟩ := List.mem_map.mp hb
      simpa using (WrittenProfile.kept (hplain p hp)).accepted p.complete
    rw [hall, List.forall₂_map_left_iff] at hreads
    have hboth := (List.forall₂_and_left file.profiles _).mpr ⟨hplain, hreads⟩
    exact hboth.imp fun p t h => WrittenProfile.restored h.1 h.2

/-! ### A profile with the label "Id" -/

def five : Whole where
  digits := [⟨5, by decide⟩]
  digits_ne := nofun

/-- A block with the id 5 and the label "Id". -/
def idBlock : ProfileBlock where
  indent := ⟨[], blank_nil⟩
  body :=
    [.entry ⟨[], .id, five.text, blank_nil, by decide⟩,
      .entry ⟨[], .label, "Id".toList, blank_nil, by decide⟩]
  close := some ⟨[], blank_nil⟩

def idProfile : WrittenProfile plainPlatform where
  profile := { profileID := 5, label := "Id", ownPort := 80 }
  block := idBlock
  complete :=
    { closed := Option.some_ne_none _
      label := ⟨_, List.mem_cons_of_mem _ List.mem_cons_self, rfl⟩
      id := ⟨_, List.mem_cons_self, rfl⟩ }
  values := by
    intro e he
    rcases List.mem_cons.mp he with rfl | he
    · exact FieldValue.written_whole plainPlatform five
    · rw [List.mem_singleton.mp he]
      exact rfl
  isInt := by
    intro f n h
    cases f <;> cases h <;> decide
  id_ne := by decide
  port_ne := by decide
  label_ne := by decide
  plain := by
    intro c hc
    have hid : c = 'I' ∨ c = 'd' := by simpa using hc
    rcases hid with rfl | rfl <;> decide

def idListing : ProfileListing plainPlatform where
  parts := [.inr idProfile]
  short := by
    intro part hpart
    rw [List.mem_singleton.mp hpart]
    decide

/-- The label's line is taken for the id's: the id is 0, the label is missing, and the
profile is dropped. -/
theorem idListing_not_restored :
    readProfiles plainPlatform (fileText parserTags true idListing.items) = [] ∧
      ¬ List.Forall₂ WrittenProfile.Restored idListing.profiles
        (readProfiles plainPlatform (fileText parserTags true idListing.items)) := by
  have hdropped : ¬ idBlock.Accepted plainPlatform parserTags := by decide
  have hreads := idListing.reads true
  have hblocks : idListing.profiles.map WrittenProfile.block = [idBlock] := rfl
  rw [hblocks] at hreads
  have hnone : readProfiles plainPlatform (fileText parserTags true idListing.items) = [] := by
    refine List.length_eq_zero_iff.mp ?_
    rw [← hreads.length_eq]
    simp [hdropped]
  refine ⟨hnone, ?_⟩
  rw [hnone]
  nofun

end ScadaSim.Traffic

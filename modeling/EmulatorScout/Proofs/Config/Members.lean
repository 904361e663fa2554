import EmulatorScout.Proofs.Config.ReadBack
import EmulatorScout.Proofs.FileSystem.Walk

/-!
# Configurations among other members

Any JSON text of an object can be loaded as a configuration. What it gives depends on the members of the
two known names alone (`Config.ofWritten?_object_iff`), wherever they stand, however their names are
spelt, and whatever other members there are: either each of the two is there once with a value of its
type or left out, and then the configuration is what they state (`Config.States`), or the text is
unusable and the configuration is the default as a whole (`Config.load_members`).

The members are taken into account one after the other, and each name has its own place to be filled at
most once (`Config.Fills`), so the two have no part in each other.
-/

set_option autoImplicit false

namespace EmulatorScout.Config

open Json (Literal.decode)
open Json.Written (IsText)

/-! ## What values stand for -/

/-- A value is a string that stands for a text. -/
def StandsFor (value : Json.Written) (text : String) : Prop :=
  ∃ literal, value = .string literal ∧ Literal.decode literal = some text.toList

/-- A value is an array of strings that stand for directories, in order. -/
def IsDirs (value : Json.Written) (dirs : List String) : Prop :=
  ∃ items, value = .array items ∧ List.Forall₂ StandsFor items dirs

/-- Strings are read as the texts that they stand for. -/
theorem string?_eq_some_iff {value : Json.Written} {text : String} :
    string? value = some text ↔ StandsFor value text := by
  rw [StandsFor]
  cases value with
  | string literal =>
    simp only [string?, Option.map_eq_some_iff, Json.Written.string.injEq, exists_eq_left']
    constructor
    · rintro ⟨decoded, hdecoded, rfl⟩
      rw [hdecoded, String.toList_ofList]
    · intro h
      exact ⟨text.toList, h, String.ofList_toList⟩
  | null | truth _ | number _ | array _ | object _ => simp [string?]

theorem mapM_string?_iff {items : List Json.Written} {dirs : List String} :
    items.mapM string? = some dirs ↔ List.Forall₂ StandsFor items dirs := by
  induction items generalizing dirs with
  | nil =>
    constructor
    · rintro ⟨⟩
      exact .nil
    · rintro ⟨⟩
      rfl
  | cons item items ih =>
    rw [List.mapM_cons, Option.bind_eq_bind, Option.bind_eq_some_iff]
    constructor
    · rintro ⟨dir, hdir, h⟩
      obtain ⟨rest, hrest, heq⟩ := Option.bind_eq_some_iff.1 h
      obtain rfl := Option.some.inj heq
      exact .cons (string?_eq_some_iff.1 hdir) (ih.1 hrest)
    · intro h
      cases h with
      | cons hdir hrest =>
        refine ⟨_, string?_eq_some_iff.2 hdir, ?_⟩
        rw [ih.2 hrest]
        rfl

/-- Directories are read from an array of strings, and from nothing else. -/
theorem dirs?_eq_some_iff {value : Json.Written} {dirs : List String} :
    dirs? value = some dirs ↔ IsDirs value dirs := by
  rw [IsDirs]
  cases value with
  | array items => simp [dirs?, mapM_string?_iff]
  | null | truth _ | number _ | string _ | object _ => simp [dirs?]

theorem truth?_eq_some_iff {value : Json.Written} {truth : Bool} :
    truth? value = some truth ↔ value = .truth truth := by
  cases value <;> simp [truth?]

/-! ## Members by name -/

/-- The values of the members of a name, in order. Names are compared decoded. -/
def valuesOf (name : String) (members : List (List Char × Json.Written)) : List Json.Written :=
  (members.filter fun member => Literal.decode member.1 = some name.toList).map (·.2)

section Values

variable {name : String} {member : List Char × Json.Written}
  {members : List (List Char × Json.Written)}

theorem valuesOf_cons_of_eq (h : Literal.decode member.1 = some name.toList) :
    valuesOf name (member :: members) = member.2 :: valuesOf name members := by
  rw [valuesOf, List.filter_cons_of_pos (by simpa using h), List.map_cons, valuesOf]

theorem valuesOf_cons_of_ne (h : Literal.decode member.1 ≠ some name.toList) :
    valuesOf name (member :: members) = valuesOf name members := by
  rw [valuesOf, List.filter_cons_of_neg (by simpa using h), valuesOf]

end Values

/-- Values fill a place that holds something or nothing: no value leaves it as it is, and one value
that can be read fills an empty place. -/
def Fills {α : Type} (read? : Json.Written → Option α) (before : Option α)
    (values : List Json.Written) (after : Option α) : Prop :=
  (values = [] ∧ after = before) ∨
    (before = none ∧ ∃ value, values = [value] ∧ (read? value).isSome = true ∧ after = read? value)

/-- No value leaves a place as it is. -/
theorem fills_nil_iff {α : Type} {read? : Json.Written → Option α} {before after : Option α} :
    Fills read? before [] after ↔ after = before := by
  simp [Fills]

/-- The first value has to fill an empty place, which the other values must leave as it is. -/
theorem fills_cons_iff {α : Type} {read? : Json.Written → Option α} {before after : Option α}
    {value : Json.Written} {values : List Json.Written} :
    Fills read? before (value :: values) after ↔
      before = none ∧ ∃ filling, read? value = some filling ∧ Fills read? (some filling) values after := by
  constructor
  · rintro (⟨hnil, -⟩ | ⟨hbefore, one, hone, hread, hafter⟩)
    · cases hnil
    · obtain ⟨rfl, rfl⟩ := List.cons.inj hone
      obtain ⟨filling, hfilling⟩ := Option.isSome_iff_exists.1 hread
      exact ⟨hbefore, filling, hfilling, .inl ⟨rfl, hafter.trans hfilling⟩⟩
  · rintro ⟨hbefore, filling, hfilling, ⟨rfl, rfl⟩ | ⟨hnone, -⟩⟩
    · exact .inr ⟨hbefore, value, rfl, by rw [hfilling]; rfl, hfilling.symm⟩
    · cases hnone

/-- A place that was empty holds the one value that there is, or nothing if there is none. -/
theorem exists_fills_iff {α : Type} {read? : Json.Written → Option α} {values : List Json.Written}
    {other filling : α} :
    (∃ after, Fills read? none values after ∧ after.getD other = filling) ↔
      (∃ value, values = [value] ∧ read? value = some filling) ∨ (values = [] ∧ filling = other) := by
  constructor
  · rintro ⟨after, ⟨hnil, rfl⟩ | ⟨-, value, hone, hread, rfl⟩, rfl⟩
    · exact .inr ⟨hnil, rfl⟩
    · obtain ⟨filling, hfilling⟩ := Option.isSome_iff_exists.1 hread
      exact .inl ⟨value, hone, by rw [hfilling]; rfl⟩
  · rintro (⟨value, hone, hread⟩ | ⟨hnil, rfl⟩)
    · exact ⟨_, .inr ⟨rfl, value, hone, by rw [hread]; rfl, rfl⟩, by rw [hread]; rfl⟩
    · exact ⟨none, .inl ⟨hnil, rfl⟩, rfl⟩

/-! ## Taking members into account -/

section Add

variable {found after : Found} {member : List Char × Json.Written}
  {members : List (List Char × Json.Written)}

/-- A member whose name stands for no text cannot be taken into account. -/
theorem add_of_undecoded (h : Literal.decode member.1 = none) : found.add member = none := by
  rw [Found.add, h]

theorem add_of_dirs (h : Literal.decode member.1 = some dirsMember.toList) :
    found.add member = some after ↔
      found.dirs = none ∧ ∃ dirs, dirs? member.2 = some dirs ∧ ⟨some dirs, found.json⟩ = after := by
  simp only [Found.add, h, if_true]
  cases found.dirs <;> simp

theorem add_of_json (h : Literal.decode member.1 = some jsonMember.toList) :
    found.add member = some after ↔
      found.json = none ∧ ∃ json, truth? member.2 = some json ∧ ⟨found.dirs, some json⟩ = after := by
  have hne : jsonMember.toList ≠ dirsMember.toList := by decide
  simp only [Found.add, h, if_neg hne, if_true]
  cases found.json <;> simp

/-- A member of another name is passed over, whatever its value. -/
theorem add_of_other (hname : (Literal.decode member.1).isSome = true)
    (hdirs : Literal.decode member.1 ≠ some dirsMember.toList)
    (hjson : Literal.decode member.1 ≠ some jsonMember.toList) : found.add member = some found := by
  obtain ⟨name, hdecode⟩ := Option.isSome_iff_exists.1 hname
  rw [hdecode] at hdirs hjson
  have hdirs' : name ≠ dirsMember.toList := fun heq => hdirs (congrArg some heq)
  have hjson' : name ≠ jsonMember.toList := fun heq => hjson (congrArg some heq)
  simp only [Found.add, hdecode, if_neg hdirs', if_neg hjson']

/-- One member, and then the others: what the places hold in the end is filled by the values of all of
them. A member has a part in one of the two places at most. -/
theorem fills_after_add_iff :
    (∃ next, found.add member = some next ∧
      Fills dirs? next.dirs (valuesOf dirsMember members) after.dirs ∧
      Fills truth? next.json (valuesOf jsonMember members) after.json) ↔
      (Literal.decode member.1).isSome = true ∧
      Fills dirs? found.dirs (valuesOf dirsMember (member :: members)) after.dirs ∧
      Fills truth? found.json (valuesOf jsonMember (member :: members)) after.json := by
  by_cases hdirs : Literal.decode member.1 = some dirsMember.toList
  · have hjson : Literal.decode member.1 ≠ some jsonMember.toList := by
      rw [hdirs]
      decide
    rw [valuesOf_cons_of_eq hdirs, valuesOf_cons_of_ne hjson, fills_cons_iff]
    constructor
    · rintro ⟨next, hnext, hfills, hother⟩
      obtain ⟨hempty, dirs, hread, rfl⟩ := (add_of_dirs hdirs).1 hnext
      exact ⟨by rw [hdirs]; rfl, ⟨hempty, dirs, hread, hfills⟩, hother⟩
    · rintro ⟨-, ⟨hempty, dirs, hread, hfills⟩, hother⟩
      exact ⟨_, (add_of_dirs hdirs).2 ⟨hempty, dirs, hread, rfl⟩, hfills, hother⟩
  rw [valuesOf_cons_of_ne hdirs]
  by_cases hjson : Literal.decode member.1 = some jsonMember.toList
  · rw [valuesOf_cons_of_eq hjson, fills_cons_iff]
    constructor
    · rintro ⟨next, hnext, hother, hfills⟩
      obtain ⟨hempty, json, hread, rfl⟩ := (add_of_json hjson).1 hnext
      exact ⟨by rw [hjson]; rfl, hother, hempty, json, hread, hfills⟩
    · rintro ⟨-, hother, hempty, json, hread, hfills⟩
      exact ⟨_, (add_of_json hjson).2 ⟨hempty, json, hread, rfl⟩, hother, hfills⟩
  rw [valuesOf_cons_of_ne hjson]
  cases hname : (Literal.decode member.1).isSome with
  | true =>
    rw [add_of_other hname hdirs hjson]
    simp
  | false =>
    rw [add_of_undecoded (Option.not_isSome_iff_eq_none.1 (by simp [hname]))]
    simp

/-- All members are taken into account if their names stand for texts and the members of the two
known names fill their places. -/
theorem foldlM_add_eq_some_iff :
    members.foldlM Found.add found = some after ↔
      (∀ member ∈ members, (Literal.decode member.1).isSome = true) ∧
      Fills dirs? found.dirs (valuesOf dirsMember members) after.dirs ∧
      Fills truth? found.json (valuesOf jsonMember members) after.json := by
  induction members generalizing found with
  | nil =>
    rw [List.foldlM_nil]
    constructor
    · rintro ⟨⟩
      exact ⟨nofun, fills_nil_iff.2 rfl, fills_nil_iff.2 rfl⟩
    · rintro ⟨-, hdirs, hjson⟩
      cases found
      cases after
      cases fills_nil_iff.1 hdirs
      cases fills_nil_iff.1 hjson
      rfl
  | cons member members ih =>
    rw [List.foldlM_cons, Option.bind_eq_bind, Option.bind_eq_some_iff, List.forall_mem_cons]
    simp only [ih]
    constructor
    · rintro ⟨next, hnext, hnames, hfills⟩
      obtain ⟨hname, hall⟩ := fills_after_add_iff.1 ⟨next, hnext, hfills⟩
      exact ⟨⟨hname, hnames⟩, hall⟩
    · rintro ⟨⟨hname, hnames⟩, hall⟩
      obtain ⟨next, hnext, hfills⟩ := fills_after_add_iff.2 ⟨hname, hall⟩
      exact ⟨next, hnext, hnames, hfills⟩

end Add

/-! ## What members state -/

/-- Members state a configuration. -/
structure States (members : List (List Char × Json.Written)) (config : Config) : Prop where
  /-- Every name stands for a text. -/
  names : ∀ member ∈ members, (Literal.decode member.1).isSome = true
  /-- The directories are those of one member, or there are none and the member is left out. -/
  dirs : (∃ value, valuesOf dirsMember members = [value] ∧ IsDirs value config.extraDirs) ∨
    (valuesOf dirsMember members = [] ∧ config.extraDirs = [])
  /-- The choice of output is that of one member, or it is not JSON and the member is left out. -/
  json : valuesOf jsonMember members = [.truth config.json] ∨
    (valuesOf jsonMember members = [] ∧ config.json = false)

/-- Members spoil a configuration: one of the two names is there twice, or with a value that is none of
its type. -/
def Spoil (members : List (List Char × Json.Written)) : Prop :=
  1 < (valuesOf dirsMember members).length ∨ 1 < (valuesOf jsonMember members).length ∨
    (∃ value ∈ valuesOf dirsMember members, ∀ dirs, ¬ IsDirs value dirs) ∨
    ∃ value ∈ valuesOf jsonMember members, ∀ truth, value ≠ .truth truth

section Statement

variable {members : List (List Char × Json.Written)} {config : Config}

theorem States.not_spoil (h : States members config) : ¬ Spoil members := by
  obtain ⟨-, hdirs, hjson⟩ := h
  rintro (htwice | htwice | ⟨value, hmem, htype⟩ | ⟨value, hmem, htype⟩)
  · rcases hdirs with ⟨value, hvalues, -⟩ | ⟨hvalues, -⟩ <;> simp [hvalues] at htwice
  · rcases hjson with hvalues | ⟨hvalues, -⟩ <;> simp [hvalues] at htwice
  · rcases hdirs with ⟨only, hvalues, hdirs⟩ | ⟨hvalues, -⟩
    · rw [hvalues, List.mem_singleton] at hmem
      rw [hmem] at htype
      exact htype _ hdirs
    · rw [hvalues] at hmem
      cases hmem
  · rcases hjson with hvalues | ⟨hvalues, -⟩
    · rw [hvalues, List.mem_singleton] at hmem
      exact htype _ hmem
    · rw [hvalues] at hmem
      cases hmem

/-- An object stands for what its members state, and for nothing else. -/
theorem ofWritten?_object_iff :
    ofWritten? (.object members) = some config ↔
      States members config ∧ config.overrideDirs = none := by
  rw [ofWritten?, Option.map_eq_some_iff]
  simp only [foldlM_add_eq_some_iff]
  constructor
  · rintro ⟨found, ⟨hnames, hdirs, hjson⟩, rfl⟩
    refine ⟨⟨hnames, ?_, ?_⟩, rfl⟩
    · rcases exists_fills_iff.1 ⟨_, hdirs, rfl⟩ with ⟨value, hvalues, hread⟩ | hnone
      · exact .inl ⟨value, hvalues, dirs?_eq_some_iff.1 hread⟩
      · exact .inr hnone
    · rcases exists_fills_iff.1 ⟨_, hjson, rfl⟩ with ⟨value, hvalues, hread⟩ | hnone
      · obtain rfl := truth?_eq_some_iff.1 hread
        exact .inl hvalues
      · exact .inr hnone
  · rintro ⟨⟨hnames, hdirs, hjson⟩, hoverride⟩
    have hfillsDirs : ∃ after, Fills dirs? none (valuesOf dirsMember members) after ∧
        after.getD [] = config.extraDirs := by
      refine exists_fills_iff.2 (hdirs.imp_left ?_)
      rintro ⟨value, hvalues, hread⟩
      exact ⟨value, hvalues, dirs?_eq_some_iff.2 hread⟩
    have hfillsJson : ∃ after, Fills truth? none (valuesOf jsonMember members) after ∧
        after.getD false = config.json := by
      refine exists_fills_iff.2 (hjson.imp_left ?_)
      intro hvalues
      exact ⟨_, hvalues, rfl⟩
    obtain ⟨dirs, hdirs, hextra⟩ := hfillsDirs
    obtain ⟨json, hjson, houtput⟩ := hfillsJson
    refine ⟨⟨dirs, json⟩, ⟨hnames, hdirs, hjson⟩, ?_⟩
    rw [Found.config, hextra, houtput, ← hoverride]

end Statement

/-! ## Loading -/

section Load

variable {view : View} {path : Path} {text : String} {members : List (List Char × Json.Written)}

/-- A file with the text of an object gives what the object stands for, and else the default with a
warning. -/
theorem load_of_isText (hfile : view.content path = .ok (Bytes.ofString text))
    (htext : IsText (.object members) text.toList) (dirs? : Option String) :
    load view path dirs? =
      match ofWritten? (.object members) with
      | some config => (config.override dirs?, none)
      | none => (default.override dirs?, some .unusable) := by
  have hread : ofText? text = ofWritten? (.object members) := by
    rw [ofText?, Json.Written.read?_eq_some_iff.2 htext, Option.bind_some]
  rw [load, hfile, ofReading, ofContent, Bytes.text?_ofString]
  simp only [hread]
  cases ofWritten? (.object members) <;> rfl

/-- An object is loaded as its members state it, or not at all. Its text may have any white space
between tokens, its members any order, and other members any names and values. If its members state a
configuration, that one is loaded, with the directories for this run in their own place. If one of the
two names is there twice or has a value of another type, the default configuration is loaded as a whole
with a warning, and so it is whenever the members state no configuration. -/
theorem load_members (hfile : view.content path = .ok (Bytes.ofString text))
    (htext : IsText (.object members) text.toList) (dirs? : Option String) :
    (∀ config, States members config → load view path dirs? = (config.override dirs?, none)) ∧
      (Spoil members → load view path dirs? = (default.override dirs?, some .unusable)) ∧
      ((∃ config, States members config) ∨
        load view path dirs? = (default.override dirs?, some .unusable)) := by
  have hload := load_of_isText hfile htext dirs?
  refine ⟨?_, ?_, ?_⟩
  · intro config h
    have hobject : ofWritten? (.object members) = some config.lasting :=
      ofWritten?_object_iff.2 ⟨⟨h.names, h.dirs, h.json⟩, rfl⟩
    rw [hload, hobject]
    rfl
  · intro hspoil
    cases hobject : ofWritten? (.object members) with
    | none => rw [hload, hobject]
    | some config => exact absurd hspoil (ofWritten?_object_iff.1 hobject).1.not_spoil
  · cases hobject : ofWritten? (.object members) with
    | none => exact .inr (by rw [hload, hobject])
    | some config => exact .inl ⟨config, (ofWritten?_object_iff.1 hobject).1⟩

end Load

/-- A text with a member of another name before the two known ones, one of which is spelt with an
escape. The other member holds half of a surrogate pair, which stands for no text. -/
def crowdedText : String :=
  "\x7b \"a\":[\x7b\"\\ud800\":0\x7d],\n\"\\u006ason\" : true,\t\"extra_dirs\":[\"\\/a\"]\x7d "

def crowdedMembers : List (List Char × Json.Written) :=
  [("a".toList, .array [.object [("\\ud800".toList, .number ['0'])]]),
    ("\\u006ason".toList, .truth true), ("extra_dirs".toList, .array [.string "\\/a".toList])]

set_option maxRecDepth 4096 in
theorem isText_crowdedText : IsText (.object crowdedMembers) crowdedText.toList :=
  Json.Written.read?_eq_some_iff.1 rfl

theorem states_crowdedMembers : States crowdedMembers ⟨["/a"], true, none⟩ := by
  constructor
  case names => decide +kernel
  case dirs =>
    have hvalues : valuesOf dirsMember crowdedMembers = [.array [.string "\\/a".toList]] := by
      rw [crowdedMembers, valuesOf_cons_of_ne (by decide +kernel),
        valuesOf_cons_of_ne (by decide +kernel), valuesOf_cons_of_eq (by decide +kernel)]
      rfl
    exact .inl ⟨_, hvalues, _, rfl, .cons ⟨_, rfl, by decide +kernel⟩ .nil⟩
  case json =>
    left
    rw [crowdedMembers, valuesOf_cons_of_ne (by decide +kernel),
      valuesOf_cons_of_eq (by decide +kernel), valuesOf_cons_of_ne (by decide +kernel)]
    rfl

/-- A text with two members of one known name, one of which is spelt with an escape. -/
def spoiltText : String := "\x7b\"json\":true,\"\\u006ason\":true\x7d"

/-- A file system with a file that has the given text. -/
def fileView (text : String) : View := ⟨.ofNodes [("c", .file (Bytes.ofString text))], [], .stored⟩

/-- The configuration is loaded from among other members, and a name that is there twice spoils it. -/
theorem load_members_crowded :
    load (fileView crowdedText) (Path.ofString "c") none = (⟨["/a"], true, none⟩, none) ∧
      load (fileView spoiltText) (Path.ofString "c") none = (default, some .unusable) := by
  constructor
  · have hfile : (fileView crowdedText).content (Path.ofString "c")
        = .ok (Bytes.ofString crowdedText) := by decide +kernel
    exact (load_members hfile isText_crowdedText none).1 _ states_crowdedMembers
  · have hfile : (fileView spoiltText).content (Path.ofString "c")
        = .ok (Bytes.ofString spoiltText) := by decide +kernel
    have htext : IsText (.object [("json".toList, .truth true), ("\\u006ason".toList, .truth true)])
        spoiltText.toList := Json.Written.read?_eq_some_iff.1 rfl
    have htwice : Spoil [("json".toList, .truth true), ("\\u006ason".toList, .truth true)] :=
      .inr (.inl (by decide +kernel))
    exact (load_members hfile htext none).2.1 htwice

end EmulatorScout.Config

import EmulatorScout.Proofs.Pieces
import EmulatorScout.Proofs.PropertyFile.Lines
import EmulatorScout.Proofs.Text.Blank

/-!
# Layouts of property files

A line can state a pair exactly if neither part of the pair holds what ends a line, the key does not
hold the separator, and the pair has no white space at its two ends (`PropertyFile.IsStatement`).
`Line` and `laidOut` say in how many ways a map of such pairs may be written down: in any order, with
white space around each pair, with lines that say nothing in between, and with any line ends.

Reading yields no other maps than these, and it undoes every layout
(`PropertyFile.recovers_every_layout`).
-/

set_option autoImplicit false

namespace EmulatorScout.PropertyFile

/-- A pair that a line can state. -/
structure IsStatement (pair : String × String) : Prop where
  /-- The key holds neither the separator nor what ends a line. -/
  key : ∀ c ∈ pair.1.toList, c ≠ '=' ∧ isLineEnd c = false
  /-- The key does not begin with white space. -/
  start : ∀ c ∈ pair.1.toList.head?, Text.isBlank c = false
  /-- The value holds nothing that ends a line. -/
  value : ∀ c ∈ pair.2.toList, isLineEnd c = false
  /-- The value does not end with white space. -/
  stop : ∀ c ∈ pair.2.toList.getLast?, Text.isBlank c = false

/-- The conditions on a pair as tests of its characters. -/
theorem isStatement_iff {pair : String × String} :
    (pair.1.toList.all (fun c => decide (c ≠ '=') && !isLineEnd c) = true ∧
      pair.1.toList.head?.all (fun c => !Text.isBlank c) = true ∧
      pair.2.toList.all (fun c => !isLineEnd c) = true ∧
      pair.2.toList.getLast?.all (fun c => !Text.isBlank c) = true) ↔ IsStatement pair := by
  simp only [List.all_eq_true, Option.all_eq_true, Bool.and_eq_true, decide_eq_true_eq,
    Bool.not_eq_true']
  constructor
  · rintro ⟨key, start, value, stop⟩
    exact ⟨key, start, value, stop⟩
  · intro h
    exact ⟨h.key, h.start, h.value, h.stop⟩

instance (pair : String × String) : Decidable (IsStatement pair) := decidable_of_iff _ isStatement_iff

/-- A map of pairs that lines can state. -/
def WellFormed (properties : Properties) : Prop := ∀ pair ∈ properties.pairs, IsStatement pair

instance (properties : Properties) : Decidable (WellFormed properties) :=
  inferInstanceAs (Decidable (∀ pair ∈ properties.pairs, IsStatement pair))

/-- A pair as it stands on a line. -/
def written (pair : String × String) : List Char := pair.1.toList ++ '=' :: pair.2.toList

/-! ## What a line states -/

/-- A line states the pair that is left of it when it is trimmed, cut at the first separator. -/
theorem pair?_eq_some_iff {line : List Char} {pair : String × String} :
    pair? line = some pair ↔ Text.trim line = written pair ∧ '=' ∉ pair.1.toList := by
  obtain ⟨key, value⟩ := pair
  constructor
  · intro h
    rw [pair?] at h
    split at h
    · rename_i c rest hdrop
      cases h
      have hwhole := @List.takeWhile_append_dropWhile _ (· ≠ '=') (Text.trim line)
      rw [hdrop, eq_of_dropWhile_ne hdrop] at hwhole
      rw [written, String.toList_ofList, String.toList_ofList]
      refine ⟨hwhole.symm, fun hkey => ?_⟩
      simpa using List.mem_takeWhile_imp hkey
    · cases h
  · rintro ⟨htrim, hkey⟩
    rw [written] at htrim
    have hdrop : (Text.trim line).dropWhile (· ≠ '=') = '=' :: value.toList := by
      rw [htrim, dropWhile_ne_append_cons hkey]
    have htake : (Text.trim line).takeWhile (· ≠ '=') = key.toList := by
      rw [htrim, takeWhile_ne_append_cons hkey]
    rw [pair?, hdrop, htake, String.ofList_toList]
    exact congrArg (fun value => some (key, value)) String.ofList_toList

theorem pair?_eq_none {line : List Char} (h : '=' ∉ line) : pair? line = none := by
  rw [Option.eq_none_iff_forall_ne_some]
  intro pair hpair
  have htrim := (pair?_eq_some_iff.1 hpair).1
  refine h (Text.mem_of_mem_trim ?_)
  rw [htrim, written]
  exact List.mem_append_right _ List.mem_cons_self

/-- What a line states is a pair that a line can state. -/
theorem isStatement_of_pair? {line : List Char} {pair : String × String}
    (hline : ∀ c ∈ line, isLineEnd c = false) (h : pair? line = some pair) : IsStatement pair := by
  obtain ⟨htrim, hkey⟩ := pair?_eq_some_iff.1 h
  have hchars : ∀ c ∈ written pair, isLineEnd c = false := by
    rw [← htrim]
    exact fun c hc => hline c (Text.mem_of_mem_trim hc)
  constructor
  case key =>
    intro c hc
    refine ⟨?_, hchars c (List.mem_append_left _ hc)⟩
    rintro rfl
    exact hkey hc
  case start =>
    intro c hc
    have hhead : c ∈ (Text.trim line).head? := by
      rw [htrim, written, List.head?_append, hc]
      rfl
    exact Text.isBlank_of_mem_head?_trim hhead
  case value =>
    intro c hc
    exact hchars c (List.mem_append_right _ (List.mem_cons_of_mem _ hc))
  case stop =>
    intro c hc
    have hlast : c ∈ (Text.trim line).getLast? := by
      rw [htrim, written, List.getLast?_append, List.getLast?_cons, hc]
      rfl
    exact Text.isBlank_of_mem_getLast?_trim hlast

/-- Everything that a text states is a pair that a line can state. -/
theorem isStatement_of_mem_statements {text : List Char} {pair : String × String}
    (h : pair ∈ statements text) : IsStatement pair := by
  obtain ⟨line, hline, hpair⟩ := List.mem_filterMap.1 h
  exact isStatement_of_pair? (fun c hc => (mem_of_mem_splitOnP hline hc).2) hpair

/-- Every text is read as a well-formed map. -/
theorem wellFormed_parse (text : String) : WellFormed (parse text) := fun _ hpair =>
  isStatement_of_mem_statements (Properties.mem_of_mem_ofList hpair)

/-! ## Lines as they are laid out -/

/-- White space that ends no line. -/
structure Padding where
  /-- The characters. -/
  text : List Char
  /-- They are white space and end no line. -/
  padding : text.all (fun c => Text.isBlank c && !isLineEnd c) = true

theorem Padding.blank (around : Padding) : ∀ c ∈ around.text, Text.isBlank c = true := by
  intro c hc
  have hpadding := List.all_eq_true.1 around.padding c hc
  rw [Bool.and_eq_true] at hpadding
  exact hpadding.1

theorem Padding.unending (around : Padding) : ∀ c ∈ around.text, isLineEnd c = false := by
  intro c hc
  have hpadding := List.all_eq_true.1 around.padding c hc
  rw [Bool.and_eq_true, Bool.not_eq_true'] at hpadding
  exact hpadding.2

/-- A line as it is laid out. -/
inductive Line where
  /-- A pair with white space before and after it. -/
  | stating (before : Padding) (pair : String × String) (after : Padding)
  /-- Text without a separator, on any number of lines. -/
  | silent (text : List Char) (unseparated : '=' ∉ text)

def Line.text : Line → List Char
  | stating before pair after => before.text ++ written pair ++ after.text
  | silent text _ => text

/-- The pair on a line. -/
def Line.stated? : Line → Option (String × String)
  | stating _ pair _ => some pair
  | silent .. => none

def LineEnd.text : LineEnd → List Char
  | .feed => ['\n']
  | .carriage => ['\r']
  | .both => ['\r', '\n']

/-- Lines, each with its end, and then perhaps a last line without one. -/
def laidOut (ended : List (Line × LineEnd)) (last? : Option Line) : List Char :=
  ended.flatMap (fun line => line.1.text ++ line.2.text) ++ last?.elim [] Line.text

/-- The pairs on lines, in order. -/
def stated (ended : List (Line × LineEnd)) (last? : Option Line) : List (String × String) :=
  (ended.map (·.1) ++ last?.toList).filterMap Line.stated?

theorem statements_eq_nil {text : List Char} (h : '=' ∉ text) : statements text = [] := by
  rw [statements, List.filterMap_eq_nil_iff]
  intro line hline
  exact pair?_eq_none fun hmem => h (mem_of_mem_splitOnP hline hmem).1

theorem isBlank_of_mem_head?_written {pair : String × String} (h : IsStatement pair) :
    ∀ c ∈ (written pair).head?, Text.isBlank c = false := by
  intro c hc
  rw [written, List.head?_append] at hc
  -- the first character is that of the key, or the separator after an empty key
  cases hkey : pair.1.toList.head? with
  | none =>
    rw [hkey] at hc
    cases hc
    decide
  | some first =>
    rw [hkey] at hc
    cases hc
    exact h.start _ hkey

theorem isBlank_of_mem_getLast?_written {pair : String × String} (h : IsStatement pair) :
    ∀ c ∈ (written pair).getLast?, Text.isBlank c = false := by
  intro c hc
  rw [written, List.getLast?_append, List.getLast?_cons] at hc
  cases hvalue : pair.2.toList.getLast? with
  | none =>
    rw [hvalue] at hc
    cases hc
    decide
  | some last =>
    rw [hvalue] at hc
    cases hc
    exact h.stop _ hvalue

/-- A pair is read off its line, whatever white space is around it. -/
theorem pair?_stating {pair : String × String} (h : IsStatement pair) (before after : Padding) :
    pair? (before.text ++ written pair ++ after.text) = some pair := by
  have hne : written pair ≠ [] := by simp [written]
  have htrim : Text.trim (before.text ++ written pair ++ after.text) = written pair :=
    Text.trim_surrounded before.blank after.blank hne (isBlank_of_mem_head?_written h)
      (isBlank_of_mem_getLast?_written h)
  exact pair?_eq_some_iff.2 ⟨htrim, fun hkey => (h.key _ hkey).1 rfl⟩

/-- A line states the pair that is laid out on it. -/
theorem statements_text {line : Line} (h : ∀ pair ∈ line.stated?, IsStatement pair) :
    statements line.text = line.stated?.toList := by
  cases line with
  | silent text unseparated => exact statements_eq_nil unseparated
  | stating before pair after =>
    have hpair : IsStatement pair := h pair rfl
    have hline : ∀ c ∈ before.text ++ written pair ++ after.text, isLineEnd c = false := by
      intro c hc
      rw [written, List.mem_append, List.mem_append, List.mem_append, List.mem_cons] at hc
      rcases hc with (hc | hc | rfl | hc) | hc
      · exact before.unending c hc
      · exact (hpair.key c hc).2
      · decide
      · exact hpair.value c hc
      · exact after.unending c hc
    rw [Line.text, statements, lines, List.splitOnP_eq_singleton hline, List.filterMap_cons,
      pair?_stating hpair]
    rfl

/-- A line end, of whatever kind, ends a line. -/
theorem statements_append_ended (before : List Char) (ending : LineEnd) (after : List Char) :
    statements (before ++ ending.text ++ after) = statements before ++ statements after := by
  rw [List.append_assoc]
  cases ending with
  | feed | carriage => exact statements_append_cons (by decide) before after
  | both =>
    -- the line feed ends one more line, which is empty and states nothing
    have hempty : statements ([] ++ '\n' :: after) = statements after := by
      rw [statements_append_cons (by decide) [] after]
      rfl
    rw [LineEnd.text, List.cons_append, statements_append_cons (by decide)]
    exact congrArg _ hempty

/-- A text states what is laid out in it, in the order of its lines. -/
theorem statements_laidOut {ended : List (Line × LineEnd)} {last? : Option Line}
    (h : ∀ pair ∈ stated ended last?, IsStatement pair) :
    statements (laidOut ended last?) = stated ended last? := by
  induction ended with
  | nil =>
    cases last? with
    | none => rfl
    | some last =>
      have hlast : ∀ pair ∈ last.stated?, IsStatement pair := by
        intro pair hpair
        refine h pair ?_
        rw [stated]
        exact List.mem_filterMap.2 ⟨last, List.mem_singleton_self last, hpair⟩
      rw [laidOut, List.flatMap_nil, List.nil_append, Option.elim_some, statements_text hlast, stated]
      cases hstated : last.stated? <;> simp [hstated]
  | cons line ended ih =>
    have hcons : stated (line :: ended) last? = line.1.stated?.toList ++ stated ended last? := by
      rw [stated, List.map_cons, List.cons_append, List.filterMap_cons, stated]
      cases line.1.stated? <;> rfl
    have hsplit : laidOut (line :: ended) last?
        = line.1.text ++ line.2.text ++ laidOut ended last? := by
      rw [laidOut, List.flatMap_cons, List.append_assoc, laidOut]
    rw [hcons] at h ⊢
    have hline : ∀ pair ∈ line.1.stated?, IsStatement pair := fun pair hpair =>
      h pair (List.mem_append_left _ (Option.mem_toList.2 hpair))
    have hrest : ∀ pair ∈ stated ended last?, IsStatement pair := fun pair hpair =>
      h pair (List.mem_append_right _ hpair)
    rw [hsplit, statements_append_ended, statements_text hline, ih hrest]

def Padding.none : Padding := ⟨[], by decide⟩

/-- The pairs of a map, each on a line of its own. -/
def plainLines (properties : Properties) : List (Line × LineEnd) :=
  properties.pairs.map fun pair => (.stating .none pair .none, .feed)

theorem stated_plainLines (properties : Properties) :
    stated (plainLines properties) none = properties.pairs := by
  simp [stated, plainLines, Line.stated?, Function.comp_def]

/-- Reading recovers every layout. The maps that texts are read as are the well-formed ones, and each
of them is read from every text in which its pairs are laid out, in whatever order, with whatever white
space around them, among whatever lines that state nothing, and with whatever line ends. -/
theorem recovers_every_layout (properties : Properties) :
    ((∃ text, parse text = properties) ↔ WellFormed properties) ∧
      (WellFormed properties → ∀ ended last?, (stated ended last?).Perm properties.pairs →
        parse (String.ofList (laidOut ended last?)) = properties) := by
  have hrecovers : WellFormed properties → ∀ ended last?,
      (stated ended last?).Perm properties.pairs →
        parse (String.ofList (laidOut ended last?)) = properties := by
    intro wellFormed ended last? hperm
    have hstatements : ∀ pair ∈ stated ended last?, IsStatement pair := fun pair hpair =>
      wellFormed pair (hperm.mem_iff.1 hpair)
    rw [parse, String.toList_ofList, statements_laidOut hstatements,
      Properties.ofList_eq_of_perm hperm]
  refine ⟨⟨?_, fun wellFormed => ?_⟩, hrecovers⟩
  · rintro ⟨text, rfl⟩
    exact wellFormed_parse text
  · have hperm : (stated (plainLines properties) none).Perm properties.pairs :=
      .of_eq (stated_plainLines properties)
    exact ⟨_, hrecovers wellFormed (plainLines properties) none hperm⟩

/-- A map with an empty key and an empty value, and with white space and separators inside others. -/
def knotty : Properties := (Properties.single "" "").override (.single "a b " "\u2028=c==d")

/-- The same map out of order, between other lines, with every kind of line end. -/
def knottyLines : List (Line × LineEnd) :=
  [(.silent "[section]".toList (by decide), .both),
    (.stating ⟨['\t', '\u2003'], by decide⟩ ("a b ", "\u2028=c==d") ⟨['\u0085'], by decide⟩,
      .carriage),
    (.silent [] (by decide), .feed)]

/-- It is read back. -/
theorem recovers_knotty :
    WellFormed knotty ∧
      parse (String.ofList
        (laidOut knottyLines (some (.stating .none ("", "") ⟨[' '], by decide⟩)))) = knotty := by
  have wellFormed : WellFormed knotty := by decide +kernel
  exact ⟨wellFormed, (recovers_every_layout knotty).2 wellFormed _ _ (by decide +kernel)⟩

end EmulatorScout.PropertyFile

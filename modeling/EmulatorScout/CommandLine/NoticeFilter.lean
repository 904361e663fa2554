import EmulatorScout.CommandLine.Directive

/-!
# Which notices are shown

A user chooses the notices of a run by directives, which are written with commas between them.
Directives that are of no use are passed over, and a torn one spoils them all.

Of the directives that concern a notice the most specific one decides, and of equally specific ones
the last. The standard directive comes after those of the user: it shows everything up to
`Verbosity.info`, and so it takes the place of every other directive about all notices.
-/

set_option autoImplicit false

namespace EmulatorScout.CommandLine

/-- What a user says about the notices of a run. -/
structure NoticeFilter where
  /-- The directives, in order. -/
  directives : List Directive
  deriving DecidableEq, Repr

namespace NoticeFilter

/-- The filter of a user who says nothing. -/
def silent : NoticeFilter := ⟨[]⟩

/-- The directives among the texts, unless one of them is torn. -/
def collect? : List (List Char) → Option (List Directive)
  | [] => some []
  | text :: texts =>
    match Directive.read text with
    | .ok directive => (collect? texts).map (directive :: ·)
    | .error .useless => collect? texts
    | .error .torn => none

/-- The filter that a text stands for. -/
def ofText? (text : String) : Option NoticeFilter :=
  (collect? (text.toList.splitOn ',')).map NoticeFilter.mk

/-- The directives that concern a notice, the standard one last. -/
def concerning (filter : NoticeFilter) (notice : Notice) : List Directive :=
  filter.directives.filter (·.concerns notice) ++ [Directive.standard]

/-- The directive that decides about a notice. -/
def deciding (filter : NoticeFilter) (notice : Notice) : Directive :=
  (filter.concerning notice).foldl Directive.moreSpecific Directive.standard

def shows (filter : NoticeFilter) (notice : Notice) : Bool :=
  notice.verbosity.rank ≤ (filter.deciding notice).verbosity.rank

def select (filter : NoticeFilter) (notices : List Notice) : List Notice :=
  notices.filter filter.shows

end NoticeFilter

end EmulatorScout.CommandLine

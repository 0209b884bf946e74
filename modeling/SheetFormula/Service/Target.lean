/-!
# Targets of requests

A request is sent to a target. Mostly that is a path, possibly with a query and a fragment behind
it. It may also be a whole address, with a scheme and an authority before the path; an authority
alone; or a single star, which stands for the service as a whole.

## Main definitions

* `SheetFormula.Service.isAuthority` — the names of hosts, with users and ports.
* `SheetFormula.Service.pathOf?` — the path of a target.
-/

set_option relaxedAutoImplicit false
set_option autoImplicit false

namespace SheetFormula.Service

/-- A character of paths. -/
def isPathChar (c : Char) : Bool :=
  c.isAlphanum || "!$%&'()*+,-./:;=@[\\]^_|~\"\x7b\x7d".toList.contains c || 0x7f ≤ c.toNat

/-- A character of queries. -/
def isQueryChar (c : Char) : Bool :=
  0x21 ≤ c.toNat && !(['"', '#', '<', '>'].contains c)

/-- A character of authorities, but for the percent sign. -/
def isAuthorityChar (c : Char) : Bool :=
  c.isAlphanum || "!$&'()*+,-.:;=@[]_~".toList.contains c

/-- A character of schemes. -/
def isSchemeChar (c : Char) : Bool :=
  c.isAlphanum || ['+', '-', '.'].contains c

/-! ## Authorities -/

/-- What the next characters of an authority depend on. -/
structure AuthorityState where
  /-- The colons since the user or a number in brackets. -/
  colons : Nat := 0
  opened : Bool := false
  closed : Bool := false
  /-- Whether a percent sign stands behind the user and outside of brackets. -/
  percent : Bool := false
  /-- Whether the last character ends the user. -/
  afterUser : Bool := false
  deriving Repr, DecidableEq

/-- The greatest number of colons between brackets. -/
def colonLimit : Nat := 8

/-- The state behind a character. -/
def AuthorityState.next? (state : AuthorityState) (c : Char) : Option AuthorityState :=
  let state := { state with afterUser := false }
  if c = ':' then
    if state.colons < colonLimit then some { state with colons := state.colons + 1 } else none
  else if c = '[' then
    if state.percent || state.opened then none else some { state with opened := true }
  else if c = ']' then
    if !state.opened || state.closed then none
    else some { state with closed := true, colons := 0, percent := false }
  else if c = '@' then some { state with afterUser := true, colons := 0, percent := false }
  else if c = '%' then some { state with percent := true }
  else if isAuthorityChar c then some state
  else none

/-- Whether an authority may end. -/
def AuthorityState.mayEnd (state : AuthorityState) : Bool :=
  state.opened == state.closed && decide (state.colons ≤ 1) && !state.percent && !state.afterUser

/-- Whether a text is an authority. -/
def isAuthority (text : List Char) : Bool :=
  !text.isEmpty && (text.foldlM AuthorityState.next? {}).any AuthorityState.mayEnd

/-! ## Paths -/

/-- Whether a text is a path with a query and a fragment that need not be there. -/
def isPathAndQuery (text : List Char) : Bool :=
  let whole := text.takeWhile (· ≠ '#')
  (whole.takeWhile (· ≠ '?')).all isPathChar &&
    ((whole.dropWhile (· ≠ '?')).drop 1).all isQueryChar

/-- What follows the scheme of a whole address. -/
def afterScheme? (text : List Char) : Option (List Char) :=
  match text.dropWhile isSchemeChar with
  | ':' :: '/' :: '/' :: rest => some rest
  | _ => none

/-- The path of a target: of a whole address it is never empty, and of an authority it is. -/
def pathOf? (target : String) : Option String :=
  let text := target.toList
  let path (text : List Char) : List Char := text.takeWhile fun c => c ≠ '?' && c ≠ '#'
  if text = ['*'] then some "*"
  else if text.head? = some '/' then
    if isPathAndQuery text then some (String.ofList (path text)) else none
  else
    match afterScheme? text with
    | none => if isAuthority text then some "" else none
    | some rest =>
      let behind := rest.dropWhile fun c => c ≠ '/' && c ≠ '?' && c ≠ '#'
      let authority := rest.take (rest.length - behind.length)
      if isAuthority authority && isPathAndQuery behind then
        some (if path behind = [] then "/" else String.ofList (path behind))
      else none

end SheetFormula.Service

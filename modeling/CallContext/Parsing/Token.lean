import CallContext.Parsing.Layout
import CallContext.Text.Cursor

/-!
# Tokens

The parser reads the text token by token.  Which tokens are looked for depends on the state of the
automaton (`Token.read`); layout tokens come before all others.  Where no welcome token stands, any
token will do, and where no token stands at all, text is passed over until one does: the passed
text becomes one token of the symbol `Symbol.error`.
-/

namespace CallContext

/-- A token with its place in the text. -/
structure Token (text : List Char) where
  symbol : Symbol
  /-- The end of the token before it. -/
  left : Cursor text
  start : Cursor text
  stop : Cursor text
  /-- The layout after the token, if the layout produced it. -/
  layout : Option Layout
  /-- The token changed the layout. -/
  changesLayout : Bool

namespace Token

variable {text : List Char}

/-- A byte order mark at the beginning of the text is passed over. -/
def pastMark (place : Cursor text) : Cursor text :=
  if place.offset = 0 && place.rest.head? = some '\ufeff' then place.next else place

/-- What a state looks for. -/
structure Search where
  state : Nat
  lexicon : Nat
  expectation : Expectation
  /-- Only layout tokens that take text or change the layout count. -/
  strict : Bool

/-- What a state looks for; progress since the last error makes layout tokens without text
welcome. -/
def Search.ofState (state : Nat) (progress : Bool) : Search :=
  let row := Row.ofState state
  ⟨state, Automaton.lexicons.getD row.lexicon 0, row.expectation, state = 0 || !progress⟩

/-- What is looked for where no welcome token stands. -/
def Search.anything (state : Nat) : Search :=
  { Search.ofState 0 true with state := state }

/-- The next layout token. -/
def layout? (search : Search) (layout : Option Layout) (place : Cursor text) :
    Option (Token text) :=
  let here := pastMark place
  match (layout.getD Layout.initial).scan? search.expectation here.rest with
  | none => none
  | some found =>
    let changes : Bool := layout ≠ some found.layout
    let stop := here.skip found.stop
    if stop.offset ≤ place.offset && search.strict && !changes then none
    else some ⟨found.symbol, place, here.skip found.start, stop, some found.layout, changes⟩

/-- A word that is a keyword for the state is that keyword. -/
def refine (state : Nat) (symbol : Symbol) (word : List Char) : Symbol :=
  if symbol = Symbol.identifier then
    match Lexeme.keyword? word with
    | some keyword => if (Automaton.acts state keyword).isEmpty then symbol else keyword
    | none => symbol
  else symbol

/-- The next token, or the place behind blank space where none stands and the place up to which
the text looked like one. -/
def find (search : Search) (layout : Option Layout) (place : Cursor text) :
    Except (Cursor text × Cursor text) (Token text) :=
  match layout? search layout place with
  | some token => .ok token
  | none =>
    let here := pastMark place
    let blanks := Lexeme.separators search.lexicon here.rest
    let start := here.skip blanks
    match Lexeme.token? search.lexicon (blanks = 0) start.rest with
    | some (symbol, size) =>
      .ok ⟨refine search.state symbol (start.rest.take size), place, start, start.skip size,
        none, false⟩
    | none => .error (start, start.skip (Lexeme.stumble start.rest))

/-- Passes over text until a token stands there.  The text up to `stop` is passed over already,
and the text up to `reached` looked like a token. -/
def passOver (search : Search) (layout : Option Layout) :
    (fuel : Nat) → (stop reached : Cursor text) → Cursor text
  | 0, stop, _ => stop
  | fuel + 1, stop, reached =>
    if stop.offset = reached.offset && reached.rest.isEmpty then stop
    else
      let stop := if stop.offset = reached.offset then reached.next else reached
      match find search layout stop with
      | .ok _ => stop
      | .error (_, reached) => passOver search layout fuel stop reached

/-- Any token, or else the text before the next token. -/
def readAny (state : Nat) (layout : Option Layout) (place : Cursor text) : Token text :=
  let search := Search.anything state
  match find search layout place with
  | .ok token => token
  | .error (start, reached) =>
    let stop := passOver search layout (start.rest.length + 1) start reached
    ⟨Symbol.error, place, start, stop, none, false⟩

/-- The next token for a state. -/
def read (state : Nat) (progress : Bool) (layout : Option Layout) (place : Cursor text) :
    Token text :=
  if state = 0 then readAny state layout place
  else
    match find (Search.ofState state progress) layout place with
    | .ok token => token
    | .error _ => readAny state layout place

/-- The token read as an identifier. -/
def asIdentifier (token : Token text) : Token text :=
  { token with symbol := Symbol.identifier }

end Token

end CallContext

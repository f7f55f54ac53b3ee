import LoginThrottle.Json.Token

/-!
Reading a JSON text. The arrays and objects that are open at a token are kept on a list, the
innermost first, so that values may be nested to any depth. A text holds exactly one value.
-/

set_option autoImplicit false
set_option relaxedAutoImplicit false

namespace LoginThrottle.Json

/-- An array or an object that is not complete yet, with its contents from the last to the
first. The value of a member is awaited after its name. -/
inductive Frame
  | items (read : List Value)
  | members (read : List (Option String × Value))
  | member (read : List (Option String × Value)) (name : Option String)
  deriving Repr

/-- What may come next. -/
inductive Expectation
  | value
  | valueOrClose
  | name
  | nameOrClose
  | colon
  | commaOrClose
  | nothing (result : Value)
  deriving Repr

structure Reader where
  frames : List Frame
  next : Expectation
  deriving Repr

namespace Reader

def start : Reader :=
  ⟨[], .value⟩

/-- The reader after a complete value. -/
def accept (frames : List Frame) (value : Value) : Option Reader :=
  match frames with
  | [] => some ⟨[], .nothing value⟩
  | .items read :: outer => some ⟨.items (value :: read) :: outer, .commaOrClose⟩
  | .member read name :: outer => some ⟨.members ((name, value) :: read) :: outer, .commaOrClose⟩
  | .members _ :: _ => none

/-- The reader after a token where a value starts. -/
def openValue (frames : List Frame) : Token → Option Reader
  | .null => accept frames .null
  | .bool value => accept frames (.bool value)
  | .number value => accept frames (.number value)
  | .text content? => accept frames (.text content?)
  | .openArray => some ⟨.items [] :: frames, .valueOrClose⟩
  | .openObject => some ⟨.members [] :: frames, .nameOrClose⟩
  | _ => none

/-- The reader after the token that ends the innermost array or object. -/
def closeValue (frames : List Frame) (token : Token) : Option Reader :=
  match token, frames with
  | .closeArray, .items read :: outer => accept outer (.array read.reverse)
  | .closeObject, .members read :: outer => accept outer (.object read.reverse)
  | _, _ => none

def takeName (frames : List Frame) (token : Token) : Option Reader :=
  match token, frames with
  | .text name, .members read :: outer => some ⟨.member read name :: outer, .colon⟩
  | _, _ => none

def step (reader : Reader) (token : Token) : Option Reader :=
  let frames := reader.frames
  match reader.next with
  | .value => openValue frames token
  | .valueOrClose => if token = .closeArray then closeValue frames token else openValue frames token
  | .name => takeName frames token
  | .nameOrClose =>
    if token = .closeObject then closeValue frames token else takeName frames token
  | .colon => if token = .colon then some ⟨frames, .value⟩ else none
  | .commaOrClose =>
    if token = .comma then
      match frames with
      | .items _ :: _ => some ⟨frames, .value⟩
      | _ => some ⟨frames, .name⟩
    else closeValue frames token
  | .nothing _ => none

end Reader

/-- The value that a text is written for. -/
def read (text : List Char) : Option Value := do
  let tokens ← Token.scan text
  let last ← tokens.foldlM Reader.step Reader.start
  match last.next with
  | .nothing result => some result
  | _ => none

end LoginThrottle.Json

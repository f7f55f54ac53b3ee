/-!
Metrics as text. A family has a name, a line of help, a kind and its samples, each a name with
labels and a value. In the value of a label a backslash, a line feed and a double quote are
escaped. A family without samples is left out.
-/

set_option autoImplicit false
set_option relaxedAutoImplicit false

namespace LoginThrottle.Exposition

inductive Kind
  | counter
  | gauge
  | histogram
  deriving DecidableEq, Repr

def Kind.name : Kind → String
  | .counter => "counter"
  | .gauge => "gauge"
  | .histogram => "histogram"

structure Sample where
  name : String
  labels : List (String × String)
  value : String
  deriving DecidableEq, Repr

structure Family where
  name : String
  help : String
  kind : Kind
  samples : List Sample
  deriving DecidableEq, Repr

def escape (value : List Char) : List Char :=
  value.flatMap fun
    | '\\' => ['\\', '\\']
    | '\n' => ['\\', 'n']
    | '"' => ['\\', '"']
    | c => [c]

def Sample.write (sample : Sample) : String :=
  let labels := sample.labels.map fun (name, value) ↦
    name ++ "=\"" ++ String.ofList (escape value.toList) ++ "\""
  let labels := if labels.isEmpty then "" else "\x7b" ++ ",".intercalate labels ++ "\x7d"
  sample.name ++ labels ++ " " ++ sample.value

def Family.lines (family : Family) : List String :=
  if family.samples.isEmpty then []
  else
    ("# HELP " ++ family.name ++ " " ++ family.help)
      :: ("# TYPE " ++ family.name ++ " " ++ family.kind.name)
      :: family.samples.map Sample.write

def lines (families : List Family) : List String :=
  families.flatMap Family.lines

end LoginThrottle.Exposition

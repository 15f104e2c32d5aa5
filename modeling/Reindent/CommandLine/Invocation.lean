-- SUMMARY: What a command line asks for.
import Reindent.CommandLine.Argument
import Reindent.Failure

/-! # Invocations

Switches are acted on from left to right. The last value given for a switch counts. Arguments that
belong to no switch are gathered and refused at the end. -/

namespace Reindent.CommandLine

/-- What a switch has been given. -/
inductive Given (α : Type) where
  /-- The switch is not there. -/
  | absent
  /-- The switch is there without a value, since what is attached to it is the mark `--`. -/
  | blank
  | value (a : α)
  deriving DecidableEq, Repr

/-- What has been read off the command line so far. -/
structure Invocation where
  input : Given Text := .absent
  output : Given Text := .absent
  /-- Spaces for each level of nesting. -/
  indent : Given Int := .absent
  verbose : Bool := false
  /-- Arguments that belong to no switch. -/
  extras : List Text := []
  deriving DecidableEq, Repr

/-- Why nothing is formatted. -/
inductive Stop where
  | help
  | misuse (error : UsageError)
  /-- A failure that the program does not answer for. -/
  | failure (failure : Failure)
  deriving DecidableEq, Repr

namespace Invocation

/-! ## Switches -/

/-- Acts on a switch that takes no value. -/
def flag (i : Invocation) : Switch → Except Stop Invocation
  | .help => .error .help
  | .verbose => .ok { i with verbose := true }
  | .input | .output | .indent => .ok i

/-- What a text stands for behind a switch: the mark is no value. -/
def given (t : Text) : Given Text :=
  if t == ['-', '-'] then .blank else .value t

/-- What a text stands for behind a switch for numbers. -/
def givenNumber (switch : Switch) (t : Text) : Except Stop (Given Int) :=
  match given t with
  | .absent => .ok .absent
  | .blank => .ok .blank
  | .value t =>
    match readInt? t with
    | some n => .ok (.value n)
    | none => .error (.misuse (.notNumber switch t))

/-- Acts on a switch with the text that goes with it. -/
def assign (i : Invocation) (switch : Switch) (t : Text) : Except Stop Invocation :=
  match switch with
  | .input => .ok { i with input := given t }
  | .output => .ok { i with output := given t }
  | .indent => do return { i with indent := ← givenNumber switch t }
  | .help | .verbose => .ok i

/-- Acts on switches that take no value, one after the other. -/
def flags (i : Invocation) (switches : List Switch) : Except Stop Invocation :=
  switches.foldlM flag i

def extra (i : Invocation) (t : Text) : Invocation :=
  { i with extras := i.extras ++ [t] }

/-- A switch with a text attached: switches without a value, then one that the rest of the text is
    the value of, or one that nothing is left for. -/
structure Cluster where
  before : List Switch
  last : Switch
  attached : Option Text
  deriving DecidableEq, Repr

/-- Takes apart the text attached to a short switch: `-vix` is `-v -i x`. -/
def cluster (switch : Switch) (attached : Text) : Except Stop Cluster :=
  if switch.takesValue then .ok ⟨[], switch, some attached⟩
  else
    match attached with
    | [] => .error (.misuse (.needlessValue switch []))
    | c :: rest =>
      match Switch.ofSpelling? ['-', c] with
      | none => .error (.misuse (.needlessValue switch (c :: rest)))
      | some next =>
        if rest.isEmpty then .ok ⟨[switch], next, none⟩
        else do
          let others ← cluster next rest
          return { others with before := switch :: others.before }

/-- Takes apart what is attached to a switch. Nothing can be joined to a long spelling. -/
def attachedTo (switch : Switch) (spelling attached : Text) : Except Stop Cluster :=
  if !switch.takesValue && ['-', '-'].isPrefixOf spelling then
    .error (.misuse (.needlessValue switch attached))
  else cluster switch attached

/-- Acts on the switches of a cluster that leaves nothing to be looked for. -/
def complete (i : Invocation) (c : Cluster) : Except Stop Invocation := do
  let i ← i.flags c.before
  match c.attached with
  | some value => i.assign c.last value
  | none => i.flag c.last

/-! ## Whole command lines -/

/-- The cluster that an argument for a switch stands for. -/
def clusterOf (switch : Switch) (spelling : Text) : Option Text → Except Stop Cluster
  | none => .ok ⟨[], switch, none⟩
  | some attached => attachedTo switch spelling attached

/-- Acts on sorted arguments. -/
def consume (i : Invocation) : List (Text × Argument) → Except Stop Invocation
  | [] => .ok i
  | (_, .named switch spelling attached) :: rest => do
    let c ← clusterOf switch spelling attached
    if c.last.takesValue && c.attached.isNone then
      match rest with
      | (value, .plain) :: others =>
        (← i.complete { c with attached := some value }).consume others
      | _ => .error (.misuse (.missingValue c.last))
    else (← i.complete c).consume rest
  | (t, _) :: rest => (i.extra t).consume rest

/-- What a valid command line asks for. -/
structure Order where
  input : Text
  output : Option Text
  /-- What each level of nesting is indented by. -/
  indent : Text
  verbose : Bool
  deriving DecidableEq, Repr

def inputText : Given Text → Except Stop Text
  | .absent => .error (.misuse .missingInput)
  | .blank => .error (.failure .valuelessPath)
  | .value t => .ok t

def outputText : Given Text → Except Stop (Option Text)
  | .absent => .ok none
  | .blank => .error (.failure .valuelessPath)
  | .value t => .ok (some t)

/-- Spaces, as many as asked for, or two. -/
def indentText (memory : Nat) : Given Int → Except Stop Text
  | .absent => .ok [' ', ' ']
  | .blank => .error (.failure .valuelessIndent)
  | .value n =>
    if n < 0 then .error (.misuse .negativeIndent)
    else (Text.repeated memory [' '] n).mapError fun e => .failure (.excess e)

/-- Checks what all of the arguments together have to satisfy. The indent is looked at before the
    paths. -/
def order (memory : Nat) (i : Invocation) : Except Stop Order := do
  if i.input = .absent then
    throw (.misuse .missingInput)
  if !i.extras.isEmpty then
    throw (.misuse (.unrecognized i.extras))
  let indent ← indentText memory i.indent
  let input ← inputText i.input
  let output ← outputText i.output
  return { input, output, indent, verbose := i.verbose }

/-- Reads a command line. -/
def parse (memory : Nat) (arguments : List Text) : Except Stop Order := do
  let sorted ← (Argument.sort arguments).mapError .misuse
  let i ← consume {} sorted
  i.order memory

end Invocation

end Reindent.CommandLine

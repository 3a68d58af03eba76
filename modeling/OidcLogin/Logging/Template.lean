import OidcLogin.Logging.Conversion
import OidcLogin.Logging.Directive

namespace OidcLogin.Logging

-- The arguments that wait to be written, and the members that arguments are named by, if they are.
structure Supply where
  members? : Option Members
  waiting : List Json

namespace Supply

-- A single object with members gives its members as well as itself.
def ofArguments : List Json → Supply
  | [.object (first :: rest)] => ⟨some (first :: rest), [.object (first :: rest)]⟩
  | arguments => ⟨none, arguments⟩

def next (s : Supply) : Except TemplateFault (Json × Supply) :=
  match s.waiting with
  | [] => .error .tooFewArguments
  | value :: others => .ok (value, { s with waiting := others })

def select (s : Supply) (choice : Choice) : Except TemplateFault Supply :=
  match choice, s.members? with
  | .next, _ => .ok s
  | _, none => .error .unnamedArguments
  | .unclosed, _ => .error .incompleteName
  | .named name, some members =>
    match members.get? name with
    | some value => .ok { s with waiting := [value] }
    | none => .error (.unknownName name)

def measured (s : Supply) (measure : Measure) :
    Option Extent → Except TemplateFault (Option Int × Supply)
  | none => .ok (none, s)
  | some (.written n) => if measure.greatest < n then .error (.tooBig measure) else .ok (some n, s)
  | some .argument => do
    let (value, s) ← s.next
    match Conversion.whole? value with
    | none => .error .notWhole
    | some n =>
      if n < -(measure.greatest : Int) - 1 ∨ (measure.greatest : Int) < n then
        .error (.unfitting measure)
      else .ok (some n, s)

end Supply

-- The layout that a directive asks for.  A negative width is one to the left, a negative precision is
-- zero.
def Directive.layout (d : Directive) (width? precision? : Option Int) : Layout :=
  let has (c : Char) : Bool := d.flags.contains (CodePoint.ofChar c)
  let width := width?.getD 0
  { toTheLeft := has '-' || width < 0
    zeros := has '0'
    plus := has '+'
    blank := has ' '
    marked := has '#'
    width := width.natAbs
    precision? := precision?.map Int.toNat }

-- What a directive writes, and the arguments that it leaves.  `position` is where its letter stands.
def Directive.fill (d : Directive) (position : Nat) (s : Supply) :
    Except TemplateFault (Text × Supply) := do
  let s ← s.select d.choice
  let (width?, s) ← s.measured .width d.width?
  let (precision?, s) ← s.measured .precision d.precision?
  match d.letter? with
  | none => .error .incomplete
  | some letter =>
    let (value, s) ← s.next
    match Conversion.ofLetter? letter with
    | none => .error (.unknownLetter letter position)
    | some conversion =>
      let written ← conversion.write letter (d.layout width? precision?) value
      return (written, s)

namespace Template

-- The rest of a template, `size` being the length of all of it.  An object may keep members that no
-- directive names.
def fill (size : Nat) (done : List Text) (s : Supply) : Text → Except TemplateFault Text
  | [] =>
    if s.waiting.isEmpty || s.members?.isSome then .ok done.reverse.flatten
    else .error .tooManyArguments
  | c :: rest =>
    if c = '%' then
      if rest.head? = some (CodePoint.ofChar '%') then fill size (['%'] :: done) s rest.tail
      else
        match shape : Directive.read rest with
        | (directive, after) =>
          have : after.length ≤ rest.length := by
            have shorter := Directive.length_read rest
            rwa [shape] at shorter
          match directive.fill (size - after.length - 1) s with
          | .error fault => .error fault
          | .ok (written, s) => fill size (written :: done) s after
    else fill size ([c] :: done) s rest
termination_by t => t.length
decreasing_by
  · exact Nat.lt_succ_of_le (List.tail_sublist rest).length_le
  · exact Nat.lt_succ_of_le ‹after.length ≤ rest.length›
  · exact Nat.lt_succ_self _

-- The message of a template.  Without arguments the template itself is the message.
def message (template : Text) (arguments : List Json) : Except TemplateFault Text :=
  if arguments.isEmpty then .ok template
  else fill template.length [] (.ofArguments arguments) template

end Template

end OidcLogin.Logging

import MarkdownPages.Number.Binary64

/-!
# Commands

What a user asks for on the command line: to render pages, or to see the anchor of a heading.  An
option that is not given may stand in the environment.
-/

namespace MarkdownPages

open Text

inductive Command
  /-- Render one page or all, as the settings in a file say. -/
  | render (page : Option Text) (settings : Option Text)
  | slug (heading : Text)
deriving DecidableEq, Repr

inductive UsageError
  | unknownCommand
  | unknownOption
  /-- An option or an argument that is needed has no value. -/
  | missingArgument
  /-- More arguments than the command takes. -/
  | unusedArguments
  | repeatedOption
deriving DecidableEq, Repr

namespace Command

/-! ## Arguments that are no options -/

def isDigits : (afterDigit : Bool) → Text → Bool
  | afterDigit, [] => afterDigit
  | afterDigit, c :: rest =>
    if c.isDigit then isDigits true rest else c = '_' && afterDigit && isDigits false rest

def splitDigits (s : Text) : Text × Text :=
  (s.takeWhile (fun c => c.isDigit || c = '_'), s.dropWhile (fun c => c.isDigit || c = '_'))

def dropExponent? : Text → Option Text
  | c :: rest =>
    if c = 'e' ∨ c = 'E' then
      let (digits, rest) := splitDigits (Binary64.readSign rest).2
      if isDigits false digits then some rest else none
    else some (c :: rest)
  | [] => some []

def dropNumber? (s : Text) : Option Text :=
  let name := fun (n : Nat) => String.ofList ((s.take n).flatMap lowerChar)
  if name 8 = "infinity" then some (s.drop 8)
  else if name 3 = "inf" ∨ name 3 = "nan" then some (s.drop 3)
  else
    let (whole, rest) := splitDigits s
    match rest with
    | '.' :: rest =>
      let (part, rest) := splitDigits rest
      let isPart := fun (t : Text) => t.isEmpty || isDigits false t
      if isPart whole && isPart part && !(whole.isEmpty && part.isEmpty) then dropExponent? rest
      else none
    | rest => if isDigits false whole then dropExponent? rest else none

def isImaginarySign (s : Text) : Bool := s = ['j'] || s = ['J']

def isImaginary (s : Text) : Bool :=
  isImaginarySign s || (dropNumber? s).any isImaginarySign

def isNumber : Text → Bool
  | '-' :: s =>
    isImaginary s ||
      match dropNumber? s with
      | some [] => true
      | some (sign :: rest) => (sign = '+' || sign = '-') && isImaginary rest
      | none => false
  | _ => false

/-- Whether an argument is written like an option; negative numbers and a lone dash are not. -/
def isOption (argument : Text) : Bool :=
  match argument with
  | '-' :: _ :: _ => !isNumber argument
  | _ => false

/-! ## Options -/

structure Arguments where
  options : List (Text × Text)
  others : List Text

def splitOption (argument : Text) : Text × Option Text :=
  let (name, rest) := argument.span (· != '=')
  match rest with
  | [] => (name, none)
  | _ :: value => (name, some value)

namespace Arguments

def add (arguments : Arguments) (name value : Text) : Except UsageError Arguments :=
  if (arguments.options.lookup name).isSome then .error .repeatedOption
  else .ok { arguments with options := (name, value) :: arguments.options }

def read (names : List Text) (arguments : Arguments) : List Text → Except UsageError Arguments
  | [] => .ok { arguments with others := arguments.others.reverse }
  | argument :: rest =>
    let (name, value) := splitOption argument
    if isOption argument && names.contains name then
      match value, rest with
      | some value, rest => do
        let arguments ← arguments.add name value
        read names arguments rest
      | none, value :: rest =>
        if isOption value then .error .missingArgument
        else do
          let arguments ← arguments.add name value
          read names arguments rest
      | none, [] => .error .missingArgument
    else read names { arguments with others := argument :: arguments.others } rest

end Arguments

def optionsEnd : Text := "--".toList

def variableFor (name : String) : Text := "INPUT_".toList ++ name.toList

abbrev Environment := List (Text × Text)

def refuse (others : List Text) : Except UsageError Unit :=
  if others.any isOption then .error .unknownOption
  else if others.isEmpty then .ok ()
  else .error .unusedArguments

def ofRender (environment : Environment) (before after : List Text) :
    Except UsageError Command := do
  let page := "--page".toList
  let config := "--config".toList
  let arguments ← Arguments.read [page, config] ⟨[], []⟩ before
  refuse (arguments.others ++ after)
  .ok (.render
    ((arguments.options.lookup page).or (environment.lookup (variableFor "PAGE")))
    ((arguments.options.lookup config).or (environment.lookup (variableFor "CONFIG"))))

def ofSlug (environment : Environment) (before after : List Text) : Except UsageError Command := do
  let text := "--text".toList
  let arguments ← Arguments.read [text] ⟨[], []⟩ before
  let fallback := environment.lookup (variableFor "TEXT")
  match arguments.options.lookup text, arguments.others, after with
  | some heading, others, after => do
    refuse (others ++ after)
    .ok (.slug heading)
  | none, heading :: others, after =>
    if isOption heading then .error .unknownOption
    else do
      refuse (others ++ after)
      .ok (.slug heading)
  | none, [], heading :: after => do
    refuse after
    .ok (.slug heading)
  | none, [], [] =>
    match fallback with
    | some heading => .ok (.slug heading)
    | none => .error .missingArgument

def read (environment : Environment) : List Text → Except UsageError Command
  | [] => .error .unknownCommand
  | name :: arguments =>
    let before := arguments.takeWhile (· ≠ optionsEnd)
    let after := (arguments.dropWhile (· ≠ optionsEnd)).drop 1
    if name = "render".toList then ofRender environment before after
    else if name = "slug".toList then ofSlug environment before after
    else .error .unknownCommand

end Command

end MarkdownPages

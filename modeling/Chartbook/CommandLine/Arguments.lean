/-!
Arguments of a command: flags, options with a value, and operands, in any order.
-/

namespace Chartbook.CommandLine

structure Shape where
  flags : List String
  options : List String
  fewestOperands : Nat
  mostOperands : Nat
  deriving DecidableEq, Repr

structure Arguments where
  flags : List String
  options : List (String × String)
  operands : List String
  deriving DecidableEq, Repr

inductive Word where
  | separator
  | option (name : String) (attached : Option String)
  | operand
  deriving DecidableEq, Repr

namespace Word

def ofOption (characters : List Char) : Word :=
  option (String.ofList (characters.takeWhile (· != '=')))
    (match characters.dropWhile (· != '=') with
    | _ :: value => some (String.ofList value)
    | [] => none)

def ofText (text : String) : Word :=
  match text.toList with
  | ['-', '-'] => separator
  | ['-'] => operand
  | '-' :: rest => ofOption ('-' :: rest)
  | _ => operand

end Word

namespace Arguments

def empty : Arguments :=
  { flags := [], options := [], operands := [] }

def withOperand (arguments : Arguments) (operand : String) : Arguments :=
  { arguments with operands := arguments.operands ++ [operand] }

def withFlag? (arguments : Arguments) (name : String) (attached : Option String) :
    Option Arguments :=
  if attached.isSome || arguments.flags.contains name then none
  else some { arguments with flags := arguments.flags ++ [name] }

def withOption? (arguments : Arguments) (name value : String) : Option Arguments :=
  if arguments.options.any (·.1 == name) then none
  else some { arguments with options := arguments.options ++ [(name, value)] }

def readWord? (shape : Shape) (arguments : Arguments) (text : String) :
    Word → Option (Arguments × Option String)
  | .option name attached =>
      if shape.flags.contains name then
        (arguments.withFlag? name attached).map fun given => (given, none)
      else if shape.options.contains name then
        match attached with
        | some value => (arguments.withOption? name value).map fun given => (given, none)
        | none => some (arguments, some name)
      else
        none
  | _ => some (arguments.withOperand text, none)

/-- The value of an option stands after an equals sign or is the next word, and then it looks like
an operand. What follows the separator is operands. -/
def gather? (shape : Shape) (arguments : Arguments) (waiting : Option String) :
    List String → Option Arguments
  | [] => if waiting.isSome then none else some arguments
  | text :: rest =>
      let word := Word.ofText text
      match waiting with
      | some name =>
          if word = .operand then do
            let given ← arguments.withOption? name text
            gather? shape given none rest
          else
            none
      | none =>
          if word = .separator then
            some { arguments with operands := arguments.operands ++ rest }
          else do
            let (given, next) ← arguments.readWord? shape text word
            gather? shape given next rest

def fits (arguments : Arguments) (shape : Shape) : Bool :=
  shape.fewestOperands ≤ arguments.operands.length
    && arguments.operands.length ≤ shape.mostOperands

def read? (shape : Shape) (words : List String) : Option Arguments :=
  (empty.gather? shape none words).filter (·.fits shape)

def hasFlag (arguments : Arguments) (name : String) : Bool :=
  arguments.flags.contains name

def option? (arguments : Arguments) (name : String) : Option String :=
  (arguments.options.find? (·.1 == name)).map (·.2)

def operand? (arguments : Arguments) (index : Nat) : Option String :=
  arguments.operands[index]?

end Arguments

end Chartbook.CommandLine

import Projector.Config.Json
import Projector.PixelType.Parse
import Projector.Text.Quoted

/-!
# The command line

The program takes up to four arguments: where the picture goes, where the
configuration is, how many frames there are, and which pixel type they
have. All of them are read before the configuration is loaded, then the
start is reported, and then a graphics device is asked for.

What ends the program is a `Failure`, and its text is a message with the
causes below it.
-/

namespace Projector.CommandLine

/-! ## Counts -/

/-- **Why a text is no count.** -/
inductive CountDefect where
  /-- There is nothing to read. -/
  | nothing
  /-- Something in it is no digit. -/
  | badDigit
  /-- A word of 32 bits does not hold it. -/
  | tooLarge
  deriving DecidableEq, Repr

/-- How a defect is described. -/
def CountDefect.message : CountDefect → String
  | nothing => "cannot parse integer from empty string"
  | badDigit => "invalid digit found in string"
  | tooLarge => "number too large to fit in target type"

/-- Digits read behind a number. The first character that is wrong, or
makes the number too large, decides. -/
def readDigits (n : Nat) : List Char → Except CountDefect Nat
  | [] => .ok n
  | c :: cs =>
    if !c.isDigit then .error .badDigit
    else
      let next := 10 * n + (c.toNat - '0'.toNat)
      if next < UInt32.size then readDigits next cs else .error .tooLarge

/-- **The count that a text stands for**: digits, perhaps behind a plus
sign. -/
def readCount (text : String) : Except CountDefect Nat :=
  match text.toList with
  | [] => .error .nothing
  | ['+'] => .error .badDigit
  | '+' :: ds => readDigits 0 ds
  | ds => readDigits 0 ds

/-! ## Failures -/

/-- **What ends the program.** -/
inductive Failure where
  /-- The third argument is no count. -/
  | frameCount (text : String) (defect : CountDefect)
  /-- The configuration is not loaded. -/
  | config (path : String) (error : Error)
  /-- Something else. -/
  | other (error : Error)

/-- The messages of an error and of what is behind it. -/
def errorChain (e : Error) : List String :=
  match e with
  | .file inner => [e.message, inner.message]
  | _ => [e.message]

namespace Failure

/-- The message of a failure, and the messages of its causes. -/
def chain : Failure → List String
  | frameCount text defect => [s!"invalid frame count {Text.quoted text}", defect.message]
  | config path error => s!"failed to load config {path}" :: errorChain error
  | other error => errorChain error

/-- One cause below a failure; several causes are numbered. -/
def causeLine (numbered : Bool) (i : Nat) (cause : String) : String :=
  if numbered then
    let n := toString i
    "".pushn ' ' (5 - n.length) ++ n ++ ": " ++ cause
  else "    " ++ cause

/-- **The text of a failure.** -/
def text (f : Failure) : String :=
  match f.chain with
  | [] => "Error: "
  | [message] => "Error: " ++ message
  | message :: causes =>
    let lines := causes.zipIdx.map fun (cause, i) => causeLine (causes.length != 1) i cause
    "Error: " ++ message ++ "\n\nCaused by:\n" ++ "\n".intercalate lines

end Failure

/-! ## Arguments -/

/-- **What the program is asked to do.** -/
structure Arguments where
  /-- Where the picture goes. -/
  output : String
  /-- Where the configuration is. -/
  config : Option String
  /-- How many frames there are. -/
  frames : Nat
  /-- Which type they have. -/
  pixelType : PixelType
  deriving DecidableEq

/-- **The arguments of the program.** A missing one has its default, a
hyphen stands for no configuration, and more than four do not count. -/
def readArguments (args : List String) : Except Failure Arguments := do
  let output := args[0]?.getD "vrender.png"
  let config := args[1]?.filter (· ≠ "-")
  let frames ← match args[2]? with
    | none => pure 30
    | some text =>
      match readCount text with
      | .ok n => pure n
      | .error defect => throw (.frameCount text defect)
  let pixelType ← match args[3]? with
    | none => pure .i420
    | some name =>
      match PixelType.parse name with
      | .ok type => pure type
      | .error e => throw (.other e)
  return { output, config, frames, pixelType }

/-- How the start is reported. -/
def Arguments.startFields (a : Arguments) : String :=
  s!"pixel_type={Text.quoted a.pixelType.name} frames={a.frames}"

/-- The configuration that the arguments ask for. -/
def loadConfig (read : String → Except FileError ByteArray) (a : Arguments) :
    Except Failure RendererConfig :=
  match a.config with
  | none => .ok .standard
  | some path =>
    match RendererConfig.load (read path) with
    | .ok c => .ok c
    | .error e => .error (.config path e)

/-- The graphics device of a machine that has none. -/
def openDevice : Except Error Unit := .error (.gpu .noAdapter)

/-- **How the program ends**: the report of its start, if it came so far,
and the failure that ended it. -/
structure Ending where
  /-- The fields of the report. -/
  started : Option String
  /-- Why the program ended. -/
  failure : Option Failure

/-- The exit code. -/
def Ending.exitCode (e : Ending) : Nat := if e.failure.isSome then 1 else 0

/-- **Run the program**, up to the graphics device. -/
def run (read : String → Except FileError ByteArray) (args : List String) : Ending :=
  match readArguments args with
  | .error f => ⟨none, some f⟩
  | .ok a =>
    match loadConfig read a with
    | .error f => ⟨none, some f⟩
    | .ok _ =>
      match openDevice with
      | .error e => ⟨some a.startFields, some (.other e)⟩
      | .ok () => ⟨some a.startFields, none⟩

end Projector.CommandLine

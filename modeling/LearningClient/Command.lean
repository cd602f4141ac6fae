import LearningClient.Client.Alone

/-!
# The command line

Three commands, one for each service. The arguments are looked at first,
then the settings, and only then is the backend asked. A result is written
as pretty JSON; a failure is one line on the error output. The exit code
tells the three endings apart: 0 for a result, 1 for a failure, 2 for
arguments that are no command.

An argument that begins with a dash is an option, unless it is a dash alone
or comes after two dashes alone.
-/

namespace LearningClient

open LearningClient.Http LearningClient.Json

/-- A command. -/
inductive Command
  | questions (skillIds count : String) (cursor : Option String)
  | skillRights (skillId : String)
  | createTopic (name abbreviatedName : String)
deriving DecidableEq, Repr

/-- The arguments of a command: those that stand by themselves, in order,
and the cursor, if one is given. -/
structure Arguments where
  positional : List String := []
  cursor : Option String := none
deriving DecidableEq, Repr

/-- Whether an argument is an option. -/
def isOption (arg : String) : Bool :=
  match arg.toList with
  | '-' :: _ :: _ => true
  | _ => false

/-- The option that gives the cursor. -/
def cursorOption : List Char := "--start-cursor".toList

/-- The cursor in an argument that gives it after an equals sign. -/
def cursorAfterEquals? (arg : String) : Option String :=
  match arg.toList.drop cursorOption.length with
  | '=' :: value => if cursorOption.isPrefixOf arg.toList then some (String.ofList value) else none
  | _ => none

/-- Sorts arguments into those that stand by themselves and the cursor. -/
def Arguments.gather (takesCursor : Bool) : Arguments → List String → Option Arguments
  | a, [] => some a
  | a, arg :: rest =>
    if !isOption arg then gather takesCursor { a with positional := a.positional ++ [arg] } rest
    else if arg = "--" then some { a with positional := a.positional ++ rest }
    else if !takesCursor || a.cursor.isSome then none
    else if arg.toList = cursorOption then
      match rest with
      | value :: rest =>
        if isOption value then none else gather takesCursor { a with cursor := some value } rest
      | [] => none
    else match cursorAfterEquals? arg with
      | some value => gather takesCursor { a with cursor := some value } rest
      | none => none

/-- The command that arguments spell, if they spell one. -/
def Command.ofArgs? : List String → Option Command
  | "questions" :: rest =>
    match Arguments.gather true {} rest with
    | some { positional := [skillIds, count], cursor } => some (.questions skillIds count cursor)
    | _ => none
  | "skill-rights" :: rest =>
    match Arguments.gather false {} rest with
    | some { positional := [skillId], .. } => some (.skillRights skillId)
    | _ => none
  | "create-topic" :: rest =>
    match Arguments.gather false {} rest with
    | some { positional := [name, abbreviatedName], .. } => some (.createTopic name abbreviatedName)
    | _ => none
  | _ => none

/-- How commands are spelled. -/
def Command.usage : String :=
  "Usage: questions [--start-cursor <START_CURSOR>] <SKILL_IDS> <QUESTION_COUNT>\n" ++
  "       skill-rights <SKILL_ID>\n" ++
  "       create-topic <NAME> <ABBREVIATED_NAME>\n"

/-- The call that a command is. -/
def Command.call : Command → Call
  | .questions skillIds count cursor => .fetchQuestions skillIds count cursor
  | .skillRights skillId => .loadRights skillId
  | .createTopic name abbreviatedName => .createTopic name abbreviatedName

/-- A result as a value. -/
def Reply.toValue : Reply → Value
  | .questions qs => Question.listValue qs
  | .topic t => t.toValue
  | .rights r => r.toValue
  | .flag b => .bool b
  | .token t => .str t
  | .done => .null

/-- How a run of the program ends. -/
structure Exit where
  code : Nat
  output : String := ""
  errors : String := ""
deriving DecidableEq, Repr

/-- The ending with a result or a failure. -/
def Exit.ofOutcome : Outcome Reply → Exit
  | .ok r => { code := 0, output := r.toValue.pretty ++ "\n" }
  | .error e => { code := 1, errors := "Error: " ++ e.message ++ "\n" }

/-- Runs the program: with the variables of its surroundings, a way to
carry a message to a backend under some settings, and its arguments. -/
def runProgram {m : Type → Type} [Monad m] (lookup : String → Option String)
    (exchange : Settings → Message → m Reception) (args : List String) : m Exit :=
  match Command.ofArgs? args with
  | none => return { code := 2, errors := Command.usage }
  | some command =>
    match Settings.ofLookup lookup with
    | .error e => return .ofOutcome (.error e)
    | .ok settings =>
      Exit.ofOutcome <$>
        (Client.new settings.token).runAlone (settings.send (exchange settings)) command.call

end LearningClient

import KeyScript.CommandLine.Options
import KeyScript.Fault

/-! Scripts that let a shell complete the program's command line. -/
namespace KeyScript.CommandLine

inductive Shell where
  | bash
  | zsh
  | fish
  | powershell
  | elvish
  deriving DecidableEq

/-- A shell by its name in any case. -/
def Shell.ofName (name : String) : Except Fault Shell :=
  match String.ofList (name.toList.map Char.toLower) with
  | "bash" => .ok .bash
  | "zsh" => .ok .zsh
  | "fish" => .ok .fish
  | "powershell" | "pwsh" => .ok .powershell
  | "elvish" => .ok .elvish
  | _ => .error (.settings (.invalidValue "shell" name))

/-- Options and task names that can begin a command line. -/
def firstWords : List String :=
  Level.top.flags.map (fun flag => "--" ++ flag.long) ++ Level.top.children.map (·.1)

def Shell.script (shell : Shell) (program : String) : String :=
  let words := " ".intercalate firstWords
  match shell with
  | bash => "complete -W \"" ++ words ++ "\" " ++ program ++ "\n"
  | zsh => "#compdef " ++ program ++ "\ncompadd -- " ++ words ++ "\n"
  | fish => "complete -c " ++ program ++ " -f -a \"" ++ words ++ "\"\n"
  | powershell =>
    "Register-ArgumentCompleter -Native -CommandName '" ++ program ++
      "' -ScriptBlock \x7b param($word) '" ++ words ++ "'.Split(' ') -like \"$word*\" \x7d\n"
  | elvish =>
    "set edit:completion:arg-completer[" ++ program ++ "] = \x7b|@words| put " ++ words ++ " \x7d\n"

end KeyScript.CommandLine

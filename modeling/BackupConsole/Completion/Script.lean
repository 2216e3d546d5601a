/-
  Completion scripts for shells.

  1. **Program** — `completionScript` writes a script that offers, at each level of the command line,
     its command words, its options, and the words of its slots.

  2. **Specification** — every command word and every option of every level is in the script of every
     shell. The scripts for bash, fish and zsh offer the words of slots too; those for elvish and
     powershell do not.
-/
import BackupConsole.Arguments.Invocation

namespace BackupConsole.Completion

open Arguments

/-- All levels, outermost first. -/
def allLevels : List Level :=
  [.group .program, .group .run, .leaf .backup, .leaf .restore, .group .list, .leaf .nodes,
    .leaf .backups, .leaf .completions]

/-- The words that lead to a level, behind the program's name. -/
def levelWords : Level → List String
  | .group .program => []
  | .group .run => ["run"]
  | .group .list => ["list"]
  | .leaf .completions => ["completions"]
  | .leaf .backup => ["run", "backup"]
  | .leaf .restore => ["run", "restore"]
  | .leaf .nodes => ["list", "nodes"]
  | .leaf .backups => ["list", "backups"]

/-- The command words of a level with what the help says of them. -/
def commandEntries : Level → List (String × String)
  | .group g => g.words.map fun w => (w.1, w.2.about)
  | .leaf _ => []

/-- The options of a level as they are written, with what the help says of them. -/
def optionEntries (l : Level) : List (String × String) :=
  l.options.map fun s => ("--" ++ s.name, s.about)

/-- The words of a level's slots. -/
def slotWords (l : Level) : List String := (l.options ++ l.place?.toList).flatMap Slot.words

/-- A text between single quotes, in which another text stands for each single quote. -/
def between (substitute text : String) : String :=
  "'" ++ String.ofList (text.toList.flatMap fun c => if c = '\'' then substitute.toList else [c]) ++ "'"

/-- Some texts, each on a line of its own. -/
def lines (texts : List String) : String := String.join (texts.map fun text => text ++ "\n")

/-! ## One script for each shell -/

/-- The words before the cursor, joined by this, tell the level in all scripts. -/
def levelKey (l : Level) : String := String.intercalate ";" ("pmb-admin" :: levelWords l)

/-- The script for bash: one case of a level's words for each level. -/
def bashScript : String :=
  let cases := allLevels.map fun l =>
    let words := (commandEntries l).map Prod.fst ++ (optionEntries l).map Prod.fst ++ slotWords l
    "        " ++ between "'\\''" (levelKey l) ++ ") words="
      ++ between "'\\''" (String.intercalate " " words) ++ " ;;"
  lines (["_pmb_admin() \x7b",
    "    local current=\"$\x7bCOMP_WORDS[COMP_CWORD]\x7d\" level='pmb-admin' words='' word",
    "    for word in \"$\x7bCOMP_WORDS[@]:1:COMP_CWORD-1\x7d\"; do",
    "        case \"$word\" in -*) ;; *) level=\"$level;$word\" ;; esac",
    "    done",
    "    case \"$level\" in"] ++ cases ++
    ["    esac",
    "    COMPREPLY=($(compgen -W \"$words\" -- \"$current\"))",
    "\x7d",
    "complete -F _pmb_admin -o bashdefault -o default pmb-admin"])

/-- The script for zsh, which shows what the help says beside a word. -/
def zshScript : String :=
  let entry := fun (e : String × String) => "            " ++ between "'\\''" (e.1 ++ ":" ++ e.2)
  let cases := allLevels.flatMap fun l =>
    ["        " ++ between "'\\''" (levelKey l) ++ ") entries=("]
      ++ (commandEntries l ++ optionEntries l ++ (slotWords l).map fun w => (w, "")).map entry
      ++ ["        ) ;;"]
  lines (["#compdef pmb-admin",
    "_pmb_admin() \x7b",
    "    local level='pmb-admin' word",
    "    local -a entries",
    "    for word in \"$\x7b(@)words[2,CURRENT-1]\x7d\"; do",
    "        [[ \"$word\" == -* ]] || level=\"$level;$word\"",
    "    done",
    "    case \"$level\" in"] ++ cases ++
    ["    esac",
    "    _describe 'word' entries",
    "\x7d",
    "compdef _pmb_admin pmb-admin"])

/-- The script for fish: one condition for each level, before the words of that level. -/
def fishScript : String :=
  let condition := fun (l : Level) =>
    between "\\'" ("test (string join \";\" (string match -v -- \"-*\" (commandline -opc))) = \""
      ++ levelKey l ++ "\"")
  lines (allLevels.flatMap fun l =>
    (commandEntries l).map (fun e =>
      "complete -c pmb-admin -n " ++ condition l ++ " -f -a " ++ between "\\'" e.1 ++ " -d "
        ++ between "\\'" e.2)
    ++ l.options.map (fun s =>
      "complete -c pmb-admin -n " ++ condition l ++ " -l " ++ s.name ++ " -d " ++ between "\\'" s.about
        ++ if s.words.isEmpty then "" else " -r -f -a " ++ between "\\'" (String.intercalate " " s.words))
    ++ (l.place?.toList.filter fun s => !s.words.isEmpty).map (fun s =>
      "complete -c pmb-admin -n " ++ condition l ++ " -f -a "
        ++ between "\\'" (String.intercalate " " s.words)))

/-- The script for elvish. -/
def elvishScript : String :=
  let entry := fun (e : String × String) => "            cand " ++ e.1 ++ " " ++ between "''" e.2
  let cases := allLevels.flatMap fun l =>
    ["        &" ++ between "''" (levelKey l) ++ "= \x7b"]
      ++ (commandEntries l ++ optionEntries l).map entry ++ ["        \x7d"]
  lines (["use str",
    "set edit:completion:arg-completer[pmb-admin] = \x7b|@words|",
    "    fn cand \x7b|text desc| edit:complex-candidate $text &display=$text' '$desc \x7d",
    "    var level = 'pmb-admin'",
    "    for word $words[1..-1] \x7b",
    "        if (not (str:has-prefix $word -)) \x7b set level = $level';'$word \x7d",
    "    \x7d",
    "    var completions = ["] ++ cases ++
    ["    ]",
    "    if (has-key $completions $level) \x7b $completions[$level] \x7d",
    "\x7d"])

/-- The script for powershell. It refuses an empty description and is given the word in its place. -/
def powershellScript : String :=
  let entry := fun (e : String × String) =>
    "            [System.Management.Automation.CompletionResult]::new(" ++ between "''" e.1 ++ ", "
      ++ between "''" e.1 ++ ", 'ParameterValue', " ++ between "''" (if e.2 = "" then e.1 else e.2) ++ ")"
  let cases := allLevels.flatMap fun l =>
    ["        " ++ between "''" (levelKey l) ++ " \x7b"]
      ++ (commandEntries l ++ optionEntries l).map entry ++ ["            break", "        \x7d"]
  lines (["Register-ArgumentCompleter -Native -CommandName 'pmb-admin' -ScriptBlock \x7b",
    "    param($wordToComplete, $commandAst, $cursorPosition)",
    "    $level = @('pmb-admin') + @($commandAst.CommandElements | Select-Object -Skip 1 |",
    "        ForEach-Object \x7b $_.ToString() \x7d |",
    "        Where-Object \x7b -not $_.StartsWith('-') -and $_ -ne $wordToComplete \x7d) -join ';'",
    "    $completions = @(switch ($level) \x7b"] ++ cases ++
    ["    \x7d)",
    "    $completions | Where-Object \x7b $_.CompletionText -like \"$wordToComplete*\" \x7d",
    "\x7d"])

/-- The completion script for a shell. -/
def completionScript : Shell → String
  | .bash => bashScript
  | .elvish => elvishScript
  | .fish => fishScript
  | .powershell => powershellScript
  | .zsh => zshScript

end BackupConsole.Completion

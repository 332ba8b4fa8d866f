import ProjectCheck.Shell.Reading

/-!
# Who and what

Tools that say who uses the machine, what the machine is, and what it hands on to its commands.
-/

namespace ProjectCheck.Shell

open ProjectCheck.Text

/-- The name of the only user. -/
def userName : String :=
  "root"

/-- Whether a text means the only user. -/
def isUser (text : String) : Bool :=
  text == userName || text == "0"

/-- Refuses operands of a tool that has none. -/
def withoutOperands (form : OptionForm) (use : Options → Machine → Nat × Machine) : Tool :=
  withOptions form fun o m =>
    match o.operands with
    | extra :: _ => refuseUse form.faultStatus form.tool ("extra operand " ++ quoted extra) m
    | [] => use o m

/-- A tool that prints one line. -/
def saying (tool line : String) : Tool :=
  withoutOperands { tool } fun _ m => (0, m.say (line ++ "\n"))

/-- Prints who uses the machine, as numbers or by name. -/
def identity : Tool :=
  withOptions
    { tool := "id", plain := "aGgnruzZ".toList
      long := [("context", 'Z'), ("group", 'g'), ("groups", 'G'), ("name", 'n'), ("real", 'r'),
        ("user", 'u'), ("zero", 'z')] } fun o m =>
  let fail := fun (what : String) (m : Machine) => (1, m.complain ("id: " ++ what))
  let chosen := "ugGZ".toList.filter o.has
  let mark := if o.has 'z' then "\x00" else "\n"
  if 1 < chosen.length then fail "cannot print \"only\" of more than one choice" m
  else if chosen.isEmpty && (o.has 'n' || o.has 'r') then
    fail "cannot print only names or real IDs in default format" m
  else if chosen.isEmpty && o.has 'z' then fail "option --zero not permitted in default format" m
  else
    let text := if chosen.isEmpty then "uid=0(root) gid=0(root) groups=0(root)"
      else if o.has 'n' then userName
      else "0"
    if o.operands.isEmpty then (0, m.say (text ++ mark))
    else
      forEach (fun name m =>
        if isUser name then (0, m.say (text ++ mark))
        else fail (quoted name ++ ": no such user") m) o.operands m

/-- Prints the groups of users. -/
def groups : Tool :=
  withOptions { tool := "groups" } fun o m =>
  if o.operands.isEmpty then (0, m.say (userName ++ "\n"))
  else
    forEach (fun name m =>
      if isUser name then (0, m.say (name ++ " : " ++ userName ++ "\n"))
      else (1, m.complain ("groups: " ++ quoted name ++ ": no such user"))) o.operands m

/-- What is known of the machine, by the letters that ask for it, in order. -/
def machineFacts : List (Char × String) :=
  [('s', "Linux"), ('n', "localhost"), ('r', "6.1.0"), ('v', "#1 SMP"), ('m', "x86_64"),
    ('p', "unknown"), ('i', "unknown"), ('o', "GNU/Linux")]

/-- Prints what the machine is. -/
def uname : Tool :=
  withoutOperands
    { tool := "uname", plain := "asnrvmpio".toList
      long := [("all", 'a'), ("kernel-name", 's'), ("nodename", 'n'), ("kernel-release", 'r'),
        ("kernel-version", 'v'), ("machine", 'm'), ("processor", 'p'), ("hardware-platform", 'i'),
        ("operating-system", 'o')] } fun o m =>
  let wanted := if o.given.isEmpty then ['s'] else if o.has 'a' then "snrvmo".toList
    else o.given.map (·.1)
  let facts := machineFacts.filter fun (letter, _) => wanted.contains letter
  (0, m.say (" ".intercalate (facts.map (·.2)) ++ "\n"))

/-- Says that the input is no terminal. -/
def tty : Tool :=
  withoutOperands
    { tool := "tty", plain := ['s'], long := [("silent", 's'), ("quiet", 's')], faultStatus := 2 }
    fun o m => (1, if o.has 's' then m else m.say "not a tty\n")

/-- Says that no one has logged in. -/
def logname : Tool :=
  withoutOperands { tool := "logname" } fun _ m => (1, m.complain "logname: no login name")

/-- Prints the values of exported variables, of all of them with their names if none is named. -/
def printenv : Tool :=
  withOptions { tool := "printenv", plain := ['0'], long := [("null", '0')], faultStatus := 2 } fun o m =>
  let mark := if o.has '0' then "\x00" else "\n"
  let exported := m.bindings.filterMap fun (name, b) =>
    if b.isExported then b.value.map fun value => (name, value) else none
  match o.operands with
  | [] => (0, m.say (String.join (exported.map fun (name, value) => name ++ "=" ++ value ++ mark)))
  | names =>
    forEach (fun name m =>
      match exported.lookup name with
      | some value => (0, m.say (value ++ mark))
      | none => (1, m)) names m

end ProjectCheck.Shell

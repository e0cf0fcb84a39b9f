import PromptPress.Settings.Validation
import PromptPress.Settings.EnvFile
import PromptPress.Files.Tree
import PromptPress.Text.Lines

/-!
# Loading settings

Settings come from arguments, from the environment and from the environment files, in this order of
precedence.  The names in the environment begin with `MDPROMPT_` and may be written in any case.
The value of a field that is a list is written in the interchange format.
-/

namespace PromptPress.Settings

/-- A source of settings that binds names to texts. -/
structure Source where
  /-- The name of the source in messages. -/
  name : Text
  bindings : List EnvFile.Binding

/-- The name of a field in the environment, in small letters. -/
def variableName (field : Text) : Text := "mdprompt_" ++ field

/-- The text that a source binds to a field; the last binding counts. -/
def Source.text? (s : Source) (field : Text) : Option Text :=
  (s.bindings.reverse.find? fun (n, _) => Text.lower n == variableName field).bind (·.2)

/-- The value that a source gives to a field, or nothing. -/
def Source.value? (s : Source) (field : Text) : Except Error (Option Json) :=
  match s.text? field with
  | none => .ok none
  | some t =>
    if isListField field then
      match Json.read? t with
      | some .null => .ok none
      | some v => .ok (some v)
      | none => .error (.fault .settings
          ("error parsing value for field \"" ++ field ++ "\" from source \"" ++ s.name ++ "\""))
    else .ok (some (.str t))

/-- All values that a source gives, by their fields. -/
def Source.values (s : Source) : List Text → Except Error (List (Text × Json))
  | [] => .ok []
  | f :: fs =>
    match s.value? f with
    | .error e => .error e
    | .ok v =>
      match Source.values s fs with
      | .error e => .error e
      | .ok vs =>
        .ok (match v with
          | some v => (f, v) :: vs
          | none => vs)

/-- The files that bind settings; of two bindings the one in the later file counts. -/
def envFiles : List Text := [(".env.test" : Text), ".env"]

/-- The bindings of an environment file, none if there is no such file. -/
def bindingsOf (environment : List (Text × Text)) (t : Tree) (name : Text) :
    Except Error (List EnvFile.Binding) :=
  match t.read (Path.ofText name) with
  | .error _ => .ok []
  | .ok bytes =>
    match Bytes.decode .utf8 bytes with
    | .error e => .error (.fault .undecodable e.text)
    | .ok s => .ok (EnvFile.read environment (Text.unixLines s))

/-- The bindings of environment files, one file after another. -/
def fileBindings (environment : List (Text × Text)) (t : Tree) :
    List Text → Except Error (List EnvFile.Binding)
  | [] => .ok []
  | name :: names =>
    match bindingsOf environment t name with
    | .error e => .error e
    | .ok bs =>
      match fileBindings environment t names with
      | .error e => .error e
      | .ok cs => .ok (bs ++ cs)

/-- Loads the settings from arguments, an environment and the environment files. -/
def load (arguments : List (Text × Json)) (environment : List (Text × Text)) (t : Tree) :
    Except Error Settings :=
  let outside : Source := ⟨"EnvSettingsSource", environment.map fun (n, v) => (n, some v)⟩
  match fileBindings environment t envFiles with
  | .error e => .error e
  | .ok bindings =>
    let files : Source := ⟨"DotEnvSettingsSource", bindings⟩
    match outside.values fieldNames with
    | .error e => .error e
    | .ok fromVariables =>
      match files.values fieldNames with
      | .error e => .error e
      | .ok fromFiles =>
        let all := arguments ++ fromVariables ++ fromFiles
        match check fun f => (all.find? fun (n, _) => n == f).map (·.2) with
        | .ok s => .ok s
        | .error issues => .error (.invalidSettings issues)

end PromptPress.Settings

import CallGuard.GroupSet

/-!
# Built-in groups

Some groups come with the program.  Presets bundle them under a name.

Main definitions:

- {lit}`Builtin`: the lists of built-in groups.
- {lit}`Preset`: the presets.
- {lit}`Preset.ofName?`: the preset with a name.
- {lit}`Preset.groups`: the groups of a preset.
-/

namespace CallGuard

/-! ## Groups -/

namespace Builtin

/-- Evaluating texts as code. -/
def lambda : List Group :=
  [Group.ofTexts "lambda" .error "Use anonymous functions instead please!"
    ["eval", "create_function"] [] none]

/-- Functions that rarely belong into finished code. -/
def discouraged : List Group :=
  [Group.ofTexts "runtime_configuration" .warning
    "%s() found. Changing configuration at runtime is rarely necessary."
    ["error_reporting", "ini_alter", "ini_restore", "ini_set", "apache_setenv", "putenv",
      "set_include_path", "restore_include_path", "set_time_limit", "dl"] [] none,
    Group.ofTexts "obfuscation" .warning
    ("%s() can be used to obfuscate code which is strongly discouraged. " ++
      "Please verify that the function is used for benign reasons.")
    ["base64_decode", "base64_encode", "convert_uudecode", "convert_uuencode", "str_rot13"] [] none,
    Group.ofTexts "serialize" .warning
    ("%s() found. Serialized data has known vulnerability problems with " ++
      "Object Injection. JSON is generally a better approach for serializing data.")
    ["serialize", "unserialize"] [] none,
    Group.ofTexts "debug" .warning
    "%s() found. Debug code should not normally be used in production."
    ["error_log", "var_dump", "var_export", "print_r", "trigger_error", "set_error_handler",
      "debug_backtrace", "debug_print_backtrace", "debug_zval_refcount"] [] none]

/-- Functions that do not fit shared hosts of many sites. -/
def restricted : List Group :=
  [Group.ofTexts "switch_to_blog" .error
    ("%s() is not something you should ever need to do in a theme context. " ++
      "Use an API (XML-RPC, REST) to interact with other sites instead.")
    ["switch_to_blog"] [] none,
    Group.ofTexts "user_meta" .error
    "%s() usage is highly discouraged, user meta is shared across the whole network."
    ["add_user_meta", "delete_user_meta", "get_user_meta", "update_user_meta"] [] none,
    Group.ofTexts "cookies" .warning
    ("Due to page caching, server side based client related logic will not work, " ++
      "use JS instead.")
    ["setcookie", "setrawcookie"] [] none,
    Group.ofTexts "curl" .warning
    "Using cURL functions is highly discouraged. Use wp_remote_get() instead."
    ["curl_*"] ["curl_version"] none,
    Group.ofTexts "remote_requests" .warning
    "%s() is highly discouraged for remote requests, please use wp_remote_get() instead."
    ["file_get_contents", "fsockopen", "pfsockopen"] [] none]

/-- All built-in groups. -/
def all : GroupSet :=
  GroupSet.ofList (lambda ++ discouraged ++ restricted)

/-- The groups for everyday use. -/
def recommended : GroupSet :=
  GroupSet.ofList (lambda ++ discouraged)

end Builtin

/-! ## Presets -/

/-- A bundle of built-in groups. -/
inductive Preset where
  | recommended
  | lambda
  | discouraged
  | restricted
deriving Repr, DecidableEq

namespace Preset

/-- All presets in the order in which they are shown. -/
def all : List Preset :=
  [recommended, lambda, discouraged, restricted]

/-- The name of a preset. -/
def name : Preset → String
  | recommended => "recommended"
  | lambda => "lambda"
  | discouraged => "discouraged"
  | restricted => "restricted"

/-- The preset with a name, without regard to white space around it and to the case of the letters A
to Z. -/
def ofName? (name : String) : Option Preset :=
  all.find? fun p => Text.sameIgnoringAsciiCase p.name (Text.trim name)

/-- The groups of a preset. -/
def groups : Preset → GroupSet
  | recommended => Builtin.recommended
  | lambda => GroupSet.ofList Builtin.lambda
  | discouraged => GroupSet.ofList Builtin.discouraged
  | restricted => GroupSet.ofList Builtin.restricted

end Preset

end CallGuard

import CacheSync.Settings.Path

/-!
# Settings of the environment

A variable whose name begins with `CACHEBUS__`, in any case, is a setting.  The rest of its name
is a path in small letters, with two underscores in place of each point, and its value is text.
-/

namespace CacheSync.Setting.Environment

def marker : List Char := "cachebus__".toList

/-- The small letter of a character, where that is a letter of ASCII.  The Kelvin sign is the one
character beyond ASCII that has such a letter. -/
def foldChar (c : Char) : Char :=
  if c = '\u212a' then 'k' else Text.foldChar c

def withPoints : List Char → List Char
  | '_' :: '_' :: rest => '.' :: withPoints rest
  | c :: rest => c :: withPoints rest
  | [] => []

/-- The path that the name of a variable stands for, if the variable is a setting. -/
def pathOf? (name : String) : Option String :=
  let chars := name.toList.map foldChar
  if marker.isPrefixOf chars then
    some (String.ofList (withPoints (chars.drop marker.length)))
  else none

def layer (pairs : List (String × String)) : List (String × Setting) :=
  pairs.filterMap fun (name, value) => (pathOf? name).map fun path => (path, .text value)

example : pathOf? "CACHEBUS__Logging__LEVEL" = some "logging.level" := by decide +kernel
example : pathOf? "CACHEBUS_LOGGING" = none := by decide +kernel

end CacheSync.Setting.Environment

/-!
The methods of a router that declare a route. All but `use` answer an HTTP method or stand for
several; `use` mounts what follows under a prefix.
-/

namespace RouteInventory

/-- A method name after a route receiver. -/
inductive Verb where
  | get | post | put | delete | patch | use | all | param | head | options
  deriving DecidableEq, Repr

namespace Verb

/-- Every verb, in the order in which they are tried. -/
def every : List Verb := [get, post, put, delete, patch, use, all, param, head, options]

/-- The name as it is written in a call. -/
def name : Verb → String
  | get => "get"
  | post => "post"
  | put => "put"
  | delete => "delete"
  | patch => "patch"
  | use => "use"
  | all => "all"
  | param => "param"
  | head => "head"
  | options => "options"

/-- ASCII letters in lower case; every other character stays. -/
def asciiLower (s : List Char) : List Char := s.map Char.toLower

/-- The verb with this name, in whatever ASCII case. -/
def ofName? (s : List Char) : Option Verb :=
  every.find? fun v => v.name.toList == asciiLower s

/-- Whether the verb registers a prefix and not a route. -/
def isMount (v : Verb) : Bool := v == use

/-- The method that a route of this verb is listed with. -/
def method (v : Verb) : String := .ofList (v.name.toList.map Char.toUpper)

theorem mem_every (v : Verb) : v ∈ every := by cases v <;> decide

/-- Every verb is found by its name. -/
theorem ofName?_name (v : Verb) : ofName? v.name.toList = some v := by cases v <;> decide

end Verb
end RouteInventory

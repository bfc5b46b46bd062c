import ReplySchema.Fault
import ReplySchema.Schema.Basic

/-!
Targets: schemas named by a module and a path of attributes in it. What is not found, or is no
schema, is told apart.
-/

namespace ReplySchema

/-- What a name can stand for: a schema, or something else that may have attributes. -/
inductive Attribute
  | schema (s : Schema)
  | other (className : Text) (attributes : List (Text × Attribute))

structure TargetModule where
  name : Text
  isPackage : Bool
  attributes : List (Text × Attribute)

inductive TargetError
  | malformed
  | relative (moduleName : Text)
  | noModule (moduleName missing : Text)
  | notPackage (moduleName missing parent : Text)
  | noAttribute (moduleName path : Text)
  | notSchema (target className : Text)

def TargetError.message : TargetError → Text
  | malformed => "target must look like 'package.module:attribute'"
  | relative moduleName =>
    "the 'package' argument is required to perform a relative import for " ++ Quoted.encode moduleName
  | noModule moduleName missing =>
    "cannot import module '" ++ moduleName ++ "': No module named " ++ Quoted.encode missing
  | notPackage moduleName missing parent =>
    "cannot import module '" ++ moduleName ++ "': No module named " ++ Quoted.encode missing ++ "; "
      ++ Quoted.encode parent ++ " is not a package"
  | noAttribute moduleName path => "'" ++ moduleName ++ "' has no attribute '" ++ path ++ "'"
  | notSchema target className => "'" ++ target ++ "' is a " ++ className ++ ", not a Schema"

namespace Attribute

/-- A value without attributes that anyone asks for. -/
def ofClass (className : Text) : Attribute := .other className []

/-- Values of one class under several names. -/
def named (className : Text) (names : List Text) : List (Text × Attribute) :=
  names.map fun name => (name, ofClass className)

/-- A rule with its label and its test. -/
def ofRule : Option Rule → Attribute
  | none => ofClass "NoneType"
  | some _ => .other "Validator" [("label", ofClass "str"), ("predicate", ofClass "function")]

def methodNames : List Text :=
  ["validate", "optional", "run_validation", "check", "stringify", "parse", "_notation"]

/-- What every schema has, and what its kind adds to that. -/
def ofSchema (s : Schema) : List (Text × Attribute) :=
  let own : List (Text × Attribute) :=
    match s with
    | .primitive .. => [("_matches", ofClass "method")]
    | .array _ item => [("item", .schema item), ("_item", .schema item)]
    | .object .. => [("fields", ofClass "mappingproxy"), ("_fields", ofClass "mappingproxy")]
  let marks : List (Text × Attribute) :=
    [("kind", ofClass "str"), ("validator", ofRule s.marks.rule), ("is_optional", ofClass "bool")]
  own ++ marks ++ named "method" methodNames

def attributes : Attribute → List (Text × Attribute)
  | schema s => ofSchema s
  | other _ attributes => attributes

/-- The attribute at the end of a path of names. -/
def follow (a : Attribute) : List Text → Option Attribute
  | [] => some a
  | name :: names => (find? name a.attributes).bind fun b => b.follow names

def toSchema (target : Text) : Attribute → Except TargetError Schema
  | schema s => .ok s
  | other className _ => .error (.notSchema target className)

/-- A namespace that holds `a` at the end of a path, besides what `attributes` holds. -/
def put (a : Attribute) : (path : List Text) → List (Text × Attribute) → List (Text × Attribute)
  | [], attributes => attributes
  | [name], attributes => assign name a attributes
  | name :: names, attributes =>
    let inner := ((find? name attributes).map Attribute.attributes).getD []
    assign name (.other "SimpleNamespace" (put a names inner)) attributes

end Attribute

namespace TargetModule

/-- The attributes of a module, which has a name besides. -/
def attributesWith (attributes : List (Text × Attribute)) : List (Text × Attribute) :=
  ("__name__", .ofClass "str") :: attributes

/-- A module that is no package, with attributes at the ends of their paths. -/
def ofPaths (name : Text) (paths : List (Text × Attribute)) : TargetModule :=
  ⟨name, false, attributesWith <|
    paths.foldl (fun attributes p => p.2.put (Text.splitOn '.' p.1) attributes) []⟩

def asAttribute (m : TargetModule) : Attribute := .other "module" m.attributes

end TargetModule

abbrev Catalog := List TargetModule

namespace Catalog

def module? (catalog : Catalog) (name : Text) : Option TargetModule := catalog.find? (·.name = name)

/-- Looks for a module below the modules whose names lead to it, the last of which is `parent`. -/
def descend (catalog : Catalog) (whole : Text) (parent : Option TargetModule) :
    List Text → Except TargetError (Option TargetModule)
  | [] => .ok parent
  | part :: parts =>
    let name := match parent with | none => part | some p => p.name ++ "." ++ part
    match catalog.module? name, parent with
    | some m, none => catalog.descend whole (some m) parts
    | some m, some p =>
      if p.isPackage then catalog.descend whole (some m) parts
      else .error (.notPackage whole name p.name)
    | none, some p =>
      .error (if p.isPackage then .noModule whole name else .notPackage whole name p.name)
    | none, none => .error (.noModule whole name)

def importModule (catalog : Catalog) (name : Text) : Except TargetError TargetModule :=
  if name.startsWith "." then .error (.relative name)
  else
    match catalog.descend name none (Text.splitOn '.' name) with
    | .ok (some m) => .ok m
    | .ok none => .error (.noModule name name)
    | .error e => .error e

/-- The schema that a target names. -/
def schema (catalog : Catalog) (target : Text) : Except TargetError Schema :=
  match Text.splitAt? ":" target with
  | none => .error .malformed
  | some (moduleName, path) =>
    if moduleName.isEmpty || path.isEmpty then .error .malformed
    else
      match catalog.importModule moduleName with
      | .error e => .error e
      | .ok m =>
        match m.asAttribute.follow (Text.splitOn '.' path) with
        | none => .error (.noAttribute moduleName path)
        | some a => a.toSchema target

end Catalog

end ReplySchema

import ReplySchema.Target.Catalog

/-!
The packaged samples: a user and an order, to try the command line on.
-/

namespace ReplySchema.Samples

/-- A rule whose test notes nothing down. -/
def rule (label : Text) (holds : Value → Except Raised Bool) : Rule :=
  ⟨label, fun v => ⟨[], holds v⟩⟩

def string (rule : Option Rule) : Schema := .primitive ⟨rule, false⟩ .string

def number (rule : Option Rule) : Schema := .primitive ⟨rule, false⟩ .number

def isPositive (v : Value) : Bool := v.compare? (.int 0) = some .gt

def positive : Rule := rule "value > 0" fun v => .ok (isPositive v)

def longName : Rule :=
  rule "len(value) >= 2" fun v => .ok (match v with | .string t => 2 ≤ t.length | _ => false)

def hasAt : Rule :=
  rule "'@' in value" fun v => .ok (match v with | .string t => t.contains "@" | _ => false)

def user : Schema :=
  .object .plain
    [("name", string (some longName)),
      ("email", string (some hasAt)),
      ("age", .primitive ⟨some positive, true⟩ .number),
      ("tags", .array .plain (string none))]

def orderNumber : Rule :=
  rule "value.startswith('ORD-')" fun v =>
    .ok (match v with | .string t => t.startsWith "ORD-" | _ => false)

/-- Whether a number is whole; an integer has to be within the range of doubles. -/
def isWholeDouble : Value → Except Raised Bool
  | .float x => .ok x.isWhole
  | .int n =>
    if (Magnitude.ofRatio? n.natAbs 1).isSome then .ok true
    else .error (.fault ⟨.overflow, "int too large to convert to float"⟩)
  | _ => .ok false

def positiveInteger : Rule :=
  rule "positive integer" fun v => if isPositive v then isWholeDouble v else .ok false

def hasItems : Rule :=
  rule "len(items) > 0" fun v => .ok (match v with | .array items => !items.isEmpty | _ => false)

def orderItem : Schema :=
  .object .plain
    [("product_id", string none),
      ("quantity", number (some positiveInteger)),
      ("price", number (some positive))]

def order : Schema :=
  .object .plain
    [("order_id", string (some orderNumber)),
      ("items", .array ⟨some hasItems, false⟩ orderItem),
      ("total", number (some positive)),
      ("gift", .primitive ⟨none, true⟩ .boolean)]

def builders : Attribute :=
  .other "SimpleNamespace" <|
    Attribute.named "function" ["string", "number", "boolean", "array", "object"]

def samples : TargetModule where
  name := "structlm.tests._samples"
  isPackage := false
  attributes :=
    TargetModule.attributesWith
      [("USER_SCHEMA", .schema user), ("ORDER_SCHEMA", .schema order),
        ("NOT_A_SCHEMA", .ofClass "dict"), ("make_order", .ofClass "function"),
        ("positive", .ofRule (some positive)), ("validator", .ofClass "function"),
        ("s", builders), ("__all__", .ofClass "list")]

/-- The package with the builders of schemas. -/
def package : TargetModule where
  name := "structlm"
  isPackage := true
  attributes :=
    TargetModule.attributesWith <| assign "s" builders <|
      Attribute.named "list" ["__all__"] ++
        Attribute.named "function"
          ["string", "number", "boolean", "array", "obj", "validator", "parse_reply",
            "strip_markdown_json"] ++
        Attribute.named "ABCMeta"
          ["Schema", "StringSchema", "NumberSchema", "BooleanSchema", "ArraySchema", "ObjectSchema"]

/-- The package that the samples are in. -/
def tests : TargetModule :=
  ⟨"structlm.tests", true, TargetModule.attributesWith [("_samples", samples.asAttribute)]⟩

def catalog : Catalog := [package, tests, samples]

end ReplySchema.Samples

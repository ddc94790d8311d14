import WorkPool.Reply
import WorkPool.Text.Decimal
import WorkPool.Text.Quoted

/-!
# Replies in words

A client that receives a reply of the wrong form says what it received. `Reply.text`
writes a reply out in full, with the names of its parts.
-/

namespace WorkPool

namespace Written

/-- Items between brackets. -/
def list (items : List String) : String := "[" ++ ", ".intercalate items ++ "]"

/-- Named content in parentheses. -/
def tagged (name content : String) : String := name ++ "(" ++ content ++ ")"

/-- Named parts in braces. -/
def record (name : String) (parts : List (String × String)) : String :=
  name ++ " \x7b " ++ ", ".intercalate (parts.map fun (k, v) => k ++ ": " ++ v) ++ " \x7d"

/-- Content that may be absent. -/
def optional : Option String → String
  | none => "None"
  | some s => tagged "Some" s

/-- Raw content. -/
def bytes (b : Bytes) : String := list (b.map toString)

/-- A unit of work. -/
def unit (u : WorkUnit) : String :=
  record "WorkUnit" [("payload", bytes u.payload), ("target", optional (u.target.map toString)),
    ("answer", toString u.answer), ("work_type", toString u.type),
    ("priority", toString u.priority)]

/-- A kind of data. -/
def kind : Kind → String
  | .integer => "Integer"
  | .float => "Float"
  | .string => "String"
  | .blob => "Blob"
  | .file => "File"
  | .container => "Container"

/-- An entry of a container. -/
def entry (e : Entry) : String :=
  record "Entry" [("subscript", Quoted.quote e.subscript),
    ("member", optional (e.member.map bytes))]

/-- A value, under its kind. -/
def value (v : Value) : String :=
  tagged (kind v.kind) <| match v with
    | .integer n => toString n
    | .float x => Decimal.text x
    | .string s | .file s => Quoted.quote s
    | .blob b => bytes b
    | .container entries => list (entries.map entry)

/-- The answer to a subscription. -/
def status : SubscribeStatus → String
  | .satisfied member => record "AlreadySatisfied" [("member", optional (member.map bytes))]
  | .pending => "Pending"

end Written

/-- A reply in words. -/
def Reply.text : Reply → String
  | .ack => "Ack"
  | .work u => Written.tagged "Work" (Written.unit u)
  | .id n => Written.tagged "Id" (toString n)
  | .flag b => Written.tagged "Bool" (toString b)
  | .kind k => Written.tagged "Kind" (Written.kind k)
  | .value v => Written.tagged "Value" (Written.value v)
  | .member m => Written.tagged "Member" (Written.optional (m.map Written.bytes))
  | .records entries => Written.tagged "Records" (Written.list (entries.map fun (s, m) =>
      "(" ++ Quoted.quote s ++ ", " ++ Written.bytes m ++ ")"))
  | .size n => Written.tagged "Size" (toString n)
  | .subscribed s => Written.tagged "Subscribed" (Written.status s)
  | .ranks rs => Written.tagged "Ranks" (Written.list (rs.map toString))

end WorkPool

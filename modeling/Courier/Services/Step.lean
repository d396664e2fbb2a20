import Courier.Backoff
import Courier.Export.Object
import Courier.Failure
import Courier.Http.Exchange

/-!
The steps by which connected services answer the calls of a sender: exchanges with HTTP services,
the memory of unwrapped keys, and requests to the bucket, the status table and the monitoring topic
of the cloud.
-/

namespace Courier.Services

/-- The value of an attribute in the status table. Numbers are in decimal text. -/
inductive Attribute where
  | text (value : String)
  | number (digits : String)
  /-- A value of a type that the sender never writes. -/
  | other
  deriving DecidableEq, Repr

/-- An item of the status table: attributes by their names. -/
abbrev AttributeMap := List (String × Attribute)

/-- A condition on an item; names and operands stand for attributes and values. -/
inductive Condition where
  | equals (name operand : String)
  | absent (name : String)
  | both (first second : Condition)
  | either (first second : Condition)
  deriving DecidableEq, Repr

inductive Change where
  /-- The attribute gets a value. -/
  | assign (name operand : String)
  /-- The attribute, or `start` where there is none, grows by `amount`. -/
  | grow (name start amount : String)
  deriving DecidableEq, Repr

/-- A request to change one item. -/
structure Update where
  table : String
  key : AttributeMap
  change : Change
  condition : Option Condition
  /-- The attributes that names stand for. -/
  names : List (String × String)
  /-- The values that operands stand for. -/
  values : AttributeMap
  /-- Whether the whole item comes back. -/
  returnsItem : Bool
  deriving DecidableEq, Repr

/-- A page of a bucket's listing: keys, which may be missing, and where the next page starts. -/
structure KeyPage where
  keys : List (Option String)
  next : Option String
  deriving DecidableEq, Repr

/-- A page of items, and where the next page starts. -/
structure ItemPage where
  items : List AttributeMap
  next : Option AttributeMap
  deriving DecidableEq, Repr

/-- Why a request to the cloud has no result. -/
inductive Refusal where
  /-- The condition of a change does not hold. -/
  | conditionFailed
  | notFound
  | failed
  deriving DecidableEq, Repr

section Pages

variable {Page Place : Type}

/-- The answers to the requests for pages, one after another, from a place on. A page that names a
    place is followed by the one there; it is the last if it names none, the blank one, or the place
    where it starts itself. A request that is refused is the last as well. -/
inductive Paged (next : Page → Option Place) (blank : Place) :
    Option Place → List (Except Refusal Page) → Prop
  | refused (place : Option Place) (refusal : Refusal) : Paged next blank place [.error refusal]
  | last {place : Option Place} {page : Page}
    (hlast : next page = none ∨ next page = some blank ∨ next page = place) :
    Paged next blank place [.ok page]
  | more {place : Option Place} {page : Page} {start : Place}
    {answers : List (Except Refusal Page)} (hnext : next page = some start)
    (hblank : start ≠ blank) (hmoves : some start ≠ place)
    (hrest : Paged next blank (some start) answers) : Paged next blank place (.ok page :: answers)

/-- What comes of asking for all pages. -/
structure Passage (next : Page → Option Place) (blank : Place) where
  answers : List (Except Refusal Page)
  paged : Paged next blank none answers

/-- The first page is refused. -/
def Passage.refused {next : Page → Option Place} {blank : Place} (refusal : Refusal) :
    Passage next blank :=
  ⟨[.error refusal], .refused none refusal⟩

/-- The entries of all pages, behind the entries so far, or a failure if a page is refused. -/
def readPages {Entry : Type} (entries : Page → List Entry) (failure : Failure) :
    List (Except Refusal Page) → List Entry → Except Failure (List Entry)
  | [], read => .ok read
  | .error _ :: _, _ => .error failure
  | .ok page :: answers, read => readPages entries failure answers (read ++ entries page)

end Pages

inductive Step where
  /-- Looks for a key that has been unwrapped before. -/
  | recallKey (keyId wrappedKey : String)
  /-- Remembers an unwrapped key. -/
  | rememberKey (keyId wrappedKey dataKey : String)
  | post (request : Http.Request)
  | listPages (bucket folder : String)
  | head (bucket key : String)
  | fetch (bucket key : String)
  | store (bucket key : String) (content : List UInt8) (contentType : String) (metadata : Metadata)
  | readItem (table : String) (key : AttributeMap)
  | update (request : Update)
  | queryPages (table correlationId : String)
  | publish (arn message : String)

namespace Step

/-- What a step gives. -/
def Answer : Step → Type
  | recallKey .. => Option String
  | rememberKey .. => Unit
  | post _ => Except Http.Trouble Http.Reply
  | listPages .. => Passage KeyPage.next ""
  | head .. => Except Refusal Unit
  | fetch .. => Except Refusal (Body × Metadata)
  | store .. => Except Refusal Unit
  | readItem .. => Except Refusal (Option AttributeMap)
  | update _ => Except Refusal (Option AttributeMap)
  | queryPages .. => Passage ItemPage.next []
  | publish .. => Except Refusal (Option String)

def ask (step : Step) : Program Answer step.Answer := Program.question step

end Step

/-- A program of steps that may fail. -/
abbrev Procedure (α : Type) : Type := ExceptT Failure (Program Step.Answer) α

end Courier.Services

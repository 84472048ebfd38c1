import SqlBuilder.Field
import SqlBuilder.Text.Pieces

/-! # Validation of values by fields

A field first looks at what all kinds share: the absent value, the empty text and the choices.
What is left is checked by its kind.  Fields of dates and times can supply a value themselves. -/

namespace SqlBuilder

/-- Acceptance, or the fault of a value. -/
abbrev FieldCheck (α : Type) : Type := Except FieldFault α

/-- Refuse a value of the wrong kind. -/
def wrongKind {α : Type} (expected : String) (v : Value) : FieldCheck α :=
  .error (.wrongKind expected v.kind)

/-! ## Texts -/

/-- The text that a value is. -/
def textOf : Value → FieldCheck String
  | .text s => .ok s
  | v => wrongKind "text" v

/-- Accept texts of at most so many characters. -/
def checkLength (limit : Nat) (s : String) : FieldCheck Unit :=
  if limit < s.length then .error (.tooLong limit) else .ok ()

/-- Accept texts that match a pattern, if there is one. -/
def checkPattern (pattern : Option WholePattern) (s : String) : FieldCheck Unit :=
  match pattern with
  | some p => if p.accepts s then .ok () else .error (.unmatched p)
  | none => .ok ()

/-- Whether a text is an email address: before its only `@` stands something without blanks, and
behind it a name with a point that has something on both sides. -/
def isEmail (s : String) : Bool :=
  match Text.cutFirst '@' s.toList with
  | none => false
  | some (name, domain) =>
    !name.isEmpty && !domain.contains '@' && !name.any Text.isBlank
      && match Text.cutLast '.' domain with
        | some (host, top) => !host.isEmpty && !top.isEmpty
        | none => false

/-! ## Numbers -/

/-- Accept numbers between the bounds. -/
def Bounds.check {α : Type} [LT α] [DecidableLT α] (text : α → String) (b : Bounds α) (x : α) :
    FieldCheck Unit :=
  let low := b.least.filter fun limit => decide (x < limit)
  let high := b.greatest.filter fun limit => decide (limit < x)
  match low, high with
  | some limit, _ => .error (.below (text limit))
  | none, some limit => .error (.above (text limit))
  | none, none => .ok ()

/-- The integer that a value is, or that its text writes. -/
def integerOf : Value → FieldCheck Int64
  | .int n => .ok n
  | .text s =>
    match Decimal.readInt64 (Text.trimChars s.toList) with
    | some n => .ok n
    | none => .error .malformedInteger
  | v => wrongKind "integer" v

/-- An integer as one of 32 bits, if it fits. -/
def narrowed (n : Int64) : FieldCheck Int32 :=
  if Int32.minValue.toInt ≤ n.toInt ∧ n.toInt ≤ Int32.maxValue.toInt then .ok (Int32.ofInt n.toInt)
  else .error .outsideInt32

/-- The fractional number that a value is, or that its text writes. -/
def floatOf : Value → FieldCheck Float
  | .float x => .ok x
  | .int n => .ok n.toFloat
  | .text s =>
    match Decimal.readFloat (Text.trimChars s.toList) with
    | some x => .ok x
    | none => .error .malformedFloat
  | v => wrongKind "float" v

/-- A finite number. -/
def finite (x : Float) : FieldCheck Float := if x.isFinite then .ok x else .error .notFinite

/-! ## Truth values, dates and times -/

/-- The lower-case words that say true or false. -/
def truthWords : List String := ["true", "false", "1", "0", "yes", "no", "on", "off"]

/-- Whether a value says true or false: a truth value, zero, one, or a word without regard to case.
No letter beyond ASCII has a lower-case form that occurs in the words. -/
def saysTrueOrFalse : Value → Bool
  | .bool _ => true
  | .int n => n == 0 || n == 1
  | .text s => truthWords.contains (Text.lower s)
  | _ => false

/-- Accept timestamps and texts that write one with blanks between date and time. -/
def checkDateTime : Value → FieldCheck Unit
  | .timestamp _ => .ok ()
  | .text s => if (Timestamp.ofText? s).isSome then .ok () else .error .malformedDateTime
  | v => wrongKind "timestamp" v

/-! ## Kinds and fields -/

/-- Check a value that is present by its kind. -/
def FieldKind.check (kind : FieldKind) (v : Value) : FieldCheck Unit :=
  match kind with
  | .char maxLength pattern => do
    let s ← textOf v
    checkLength maxLength s
    checkPattern pattern s
  | .text => (textOf v).map fun _ => ()
  | .email maxLength => do
    let s ← textOf v
    checkLength maxLength s
    if isEmail s then .ok () else .error .malformedEmail
  | .integer bounds => do
    bounds.check (fun n => toString n.toInt) (← narrowed (← integerOf v))
  | .bigInteger bounds => do bounds.check (fun n => toString n.toInt) (← integerOf v)
  | .float bounds => do bounds.check Decimal.Layout.plain.render (← finite (← floatOf v))
  | .boolean => if saysTrueOrFalse v then .ok () else .error .notTruthValue
  | .dateTime _ _ => checkDateTime v

/-- Whether a value is the empty text. -/
def Value.isEmptyText : Value → Bool
  | .text s => s.isEmpty
  | _ => false

/-- Accept a value for a field, or say why not. -/
def Field.validate (f : Field) (v : Value) : FieldCheck Unit :=
  if v.isNull then (if f.options.null then .ok () else .error .absent)
  else if v.isEmptyText && !f.options.blank then .error .blank
  else if !f.options.choices.isEmpty && !f.options.choices.contains v then .error (.notAChoice v)
  else f.kind.check v

/-- Only the option `null` decides about the absent value. -/
theorem Field.validate_null (f : Field) :
    f.validate .null = if f.options.null then .ok () else .error .absent := rfl

/-! ## Automatic values -/

/-- For what the values of a row are put together. -/
inductive Occasion where
  /-- They are only looked at. -/
  | validation
  /-- They become a new row. -/
  | insertion
  /-- They change a row. -/
  | change
deriving Repr, DecidableEq

/-- The value that a field supplies itself at a time. -/
def Field.autoValue (f : Field) (occasion : Occasion) (now : Timestamp) : Option Value :=
  match f.kind, occasion with
  | .dateTime autoNow autoNowAdd, .insertion =>
    if autoNow || autoNowAdd then some (.timestamp now) else none
  | .dateTime autoNow _, .change => if autoNow then some (.timestamp now) else none
  | _, _ => none

/-- No value is supplied for mere validation. -/
@[simp] theorem Field.autoValue_validation (f : Field) (now : Timestamp) :
    f.autoValue .validation now = none := by
  unfold autoValue
  cases f.kind <;> rfl

end SqlBuilder

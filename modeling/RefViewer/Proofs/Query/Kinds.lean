import RefViewer.Query.Expr

/-!
# Expressions that cannot fail

An operation on text refuses booleans, and a length is only defined on texts, lists and null. Some
expressions are told by their form alone to give values of the right kind, whatever they are
evaluated on. When all operands are of this form, evaluation succeeds: `Expr.succeeds_of_safe`.
-/

namespace RefViewer.Query

-- ---------------------------------------------------------------------------
-- Kinds of values
-- ---------------------------------------------------------------------------

namespace Value

def HasText (value : Value) : Prop := ∀ use, ∃ text, value.text use = .ok text

inductive Sized : Value → Prop
  | null : Sized .null
  | string (s : String) : Sized (.string s)
  | list (names : List String) : Sized (.list names)

theorem Sized.hasText {value : Value} (sized : value.Sized) : value.HasText := by
  intro use
  cases sized <;> exact ⟨_, rfl⟩

theorem hasText_number (n : Number) : (Value.number n).HasText := fun _ => ⟨_, rfl⟩

theorem sized_ofOption (given : Option String) : (ofOption given).Sized := by
  cases given with
  | none => exact .null
  | some s => exact .string s

theorem HasText.passes_ok {value : Value} (h : value.HasText) (use : TextUse)
    (test : String → Bool) : ∃ truth, value.passes use test = .ok truth := by
  obtain ⟨text, found⟩ := h use
  cases value with
  | list names => exact ⟨_, rfl⟩
  | _ =>
    rw [passes, found]
    · exact ⟨_, rfl⟩
    · nofun

theorem HasText.textTest_ok {subject operand : Value} (left : subject.HasText)
    (right : operand.HasText) (test : TextTest) :
    ∃ truth, subject.textTest test operand = .ok truth := by
  obtain ⟨text, found⟩ := right test.use
  rw [textTest, found]
  cases text with
  | none => exact ⟨false, rfl⟩
  | some needle => exact left.passes_ok test.use fun haystack => test.holds haystack needle

theorem HasText.convert_ok {value : Value} (h : value.HasText) (case : LetterCase) :
    ∃ converted, value.convert case = .ok converted ∧ converted.Sized := by
  obtain ⟨text, found⟩ := h .caseConversion
  rw [convert, found]
  cases text with
  | none => exact ⟨_, rfl, .null⟩
  | some s => exact ⟨_, rfl, .string _⟩

theorem Sized.length_ok {value : Value} (sized : value.Sized) :
    ∃ length, value.length = .ok length ∧ length.HasText := by
  cases sized with
  | null => exact ⟨_, rfl, Sized.null.hasText⟩
  | string s => exact ⟨_, rfl, hasText_number _⟩
  | list names => exact ⟨_, rfl, hasText_number _⟩

end Value

-- ---------------------------------------------------------------------------
-- Kinds by form
-- ---------------------------------------------------------------------------

/-- Fields that are texts, lists or missing on whatever a query is tested on. -/
def Field.textual : Field → Bool
  | .name | .memberType | .className | .inheritance | .security => true
  | _ => false

/-- A record as a query may meet it. With `typed` its value type is known not to be a boolean. -/
structure Record.Fits (typed : Bool) (item : Record) : Prop where
  sized : ∀ f : Field, f.textual = true → (item f).Sized
  valueType : typed = true → (item .valueType).HasText

namespace Expr

section

variable (typed : Bool)

def textSafe : Expr → Bool
  | .literal (.bool _) => false
  | .literal _ => true
  | .field .valueType => typed
  | .field f => f.textual
  | .length _ | .convert .. => true
  | _ => false

def measurable : Expr → Bool
  | .literal .null | .literal (.string _) => true
  | .field f => f.textual
  | .convert .. => true
  | _ => false

/-- Every operand in the expression has the form that its operation asks for. -/
def safe : Expr → Bool
  | .literal _ | .field _ => true
  | .not operand => operand.safe
  | .and lhs rhs | .or lhs rhs | .compare _ lhs rhs => lhs.safe && rhs.safe
  | .text _ lhs rhs => lhs.safe && rhs.safe && lhs.textSafe typed && rhs.textSafe typed
  | .matches subject _ => subject.safe && subject.textSafe typed
  | .length subject => subject.safe && subject.measurable
  | .convert _ subject => subject.safe && subject.textSafe typed

/-- Evaluation gives a value, and of the kind that the form of the expression promises. -/
structure Succeeds (item : Record) (e : Expr) (value : Value) : Prop where
  eval_eq : e.eval item = .ok value
  text : e.textSafe typed = true → value.HasText
  sized : e.measurable = true → value.Sized

end

-- ---------------------------------------------------------------------------
-- Evaluation
-- ---------------------------------------------------------------------------

variable {typed : Bool} {item : Record}

theorem succeeds_literal (literal : Literal) :
    Succeeds typed item (.literal literal) literal.value := by
  cases literal with
  | null => exact ⟨rfl, fun _ => Value.Sized.null.hasText, fun _ => .null⟩
  | bool b => exact ⟨rfl, nofun, nofun⟩
  | number n => exact ⟨rfl, fun _ => Value.hasText_number n, nofun⟩
  | string s => exact ⟨rfl, fun _ => (Value.Sized.string s).hasText, fun _ => .string s⟩

theorem succeeds_field (fits : item.Fits typed) (f : Field) :
    Succeeds typed item (.field f) (item f) := by
  refine ⟨rfl, fun safe => ?_, fits.sized f⟩
  cases f with
  | valueType => exact fits.valueType safe
  | name | memberType | className | inheritance | security => exact (fits.sized _ rfl).hasText
  | unreplicated | deprecated | hidden | unscriptable => cases safe

theorem succeeds_truth {e : Expr} (truth : Bool) (eval_eq : e.eval item = .ok (.bool truth))
    (noText : e.textSafe typed = false) (noLength : e.measurable = false) :
    ∃ value, Succeeds typed item e value := by
  refine ⟨_, eval_eq, fun safe => ?_, fun sized => ?_⟩
  · rw [noText] at safe; cases safe
  · rw [noLength] at sized; cases sized

/-- On a record whose fields are of the known kinds, safe expressions have values. -/
theorem succeeds_of_safe (fits : item.Fits typed) :
    ∀ e : Expr, e.safe typed = true → ∃ value, Succeeds typed item e value := by
  intro e
  induction e with
  | literal literal => exact fun _ => ⟨_, succeeds_literal literal⟩
  | field f => exact fun _ => ⟨_, succeeds_field fits f⟩
  | not operand ih =>
    intro safe
    obtain ⟨value, inner⟩ := ih safe
    refine succeeds_truth (!value.truthy) ?_ rfl rfl
    rw [eval, inner.eval_eq]
    rfl
  | and lhs rhs ihl ihr =>
    intro safe
    rw [Expr.safe, Bool.and_eq_true] at safe
    obtain ⟨left, hl⟩ := ihl safe.1
    obtain ⟨right, hr⟩ := ihr safe.2
    refine succeeds_truth (if left.truthy then right.truthy else false) ?_ rfl rfl
    rw [eval, hl.eval_eq, hr.eval_eq]
    change (if left.truthy then _ else _) = _
    split <;> rfl
  | or lhs rhs ihl ihr =>
    intro safe
    rw [Expr.safe, Bool.and_eq_true] at safe
    obtain ⟨left, hl⟩ := ihl safe.1
    obtain ⟨right, hr⟩ := ihr safe.2
    refine succeeds_truth (if left.truthy then true else right.truthy) ?_ rfl rfl
    rw [eval, hl.eval_eq, hr.eval_eq]
    change (if left.truthy then _ else _) = _
    split <;> rfl
  | compare c lhs rhs ihl ihr =>
    intro safe
    rw [Expr.safe, Bool.and_eq_true] at safe
    obtain ⟨left, hl⟩ := ihl safe.1
    obtain ⟨right, hr⟩ := ihr safe.2
    refine succeeds_truth (c.holds left right) ?_ rfl rfl
    rw [eval, hl.eval_eq, hr.eval_eq]
    rfl
  | text test lhs rhs ihl ihr =>
    intro safe
    simp only [Expr.safe, Bool.and_eq_true] at safe
    obtain ⟨⟨⟨safeLeft, safeRight⟩, textLeft⟩, textRight⟩ := safe
    obtain ⟨left, hl⟩ := ihl safeLeft
    obtain ⟨right, hr⟩ := ihr safeRight
    obtain ⟨truth, tested⟩ := (hl.text textLeft).textTest_ok (hr.text textRight) test
    refine succeeds_truth truth ?_ rfl rfl
    rw [eval, hl.eval_eq, hr.eval_eq]
    simp only [bind, Except.bind, tested]
    rfl
  | «matches» subject pattern ih =>
    intro safe
    rw [Expr.safe, Bool.and_eq_true] at safe
    obtain ⟨value, inner⟩ := ih safe.1
    obtain ⟨truth, tested⟩ := (inner.text safe.2).passes_ok .matches pattern.matchesIn
    refine succeeds_truth truth ?_ rfl rfl
    rw [eval, inner.eval_eq]
    simp only [bind, Except.bind, tested]
    rfl
  | length subject ih =>
    intro safe
    rw [Expr.safe, Bool.and_eq_true] at safe
    obtain ⟨value, inner⟩ := ih safe.1
    obtain ⟨length, measured, text⟩ := (inner.sized safe.2).length_ok
    refine ⟨length, ?_, fun _ => text, nofun⟩
    rw [eval, inner.eval_eq]
    exact measured
  | convert case subject ih =>
    intro safe
    rw [Expr.safe, Bool.and_eq_true] at safe
    obtain ⟨value, inner⟩ := ih safe.1
    obtain ⟨converted, made, sized⟩ := (inner.text safe.2).convert_ok case
    refine ⟨converted, ?_, fun _ => sized.hasText, fun _ => sized⟩
    rw [eval, inner.eval_eq]
    exact made

end Expr

end RefViewer.Query

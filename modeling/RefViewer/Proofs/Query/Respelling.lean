import Mathlib.Data.List.Forall2
import RefViewer.Proofs.Query.Height
import RefViewer.Proofs.Query.PhraseCover
import RefViewer.Query.Compiled

/-!
# Other spellings of a query

A query may be spelled in other ways without a change of what it means: blanks between the tokens,
the letter case of keywords, the symbol or the word of an operator, names and methods with two
names, the quotes of a string, and further parentheses. Whatever is respelled in it, the query is
parsed to the same expression: `parse_respelled`.
-/

namespace RefViewer.Query

open Grammar (Quote WritesValue WritesSign WritesOperator isNameChar)

-- ---------------------------------------------------------------------------
-- Respelled phrases
-- ---------------------------------------------------------------------------

/-- The operator is the same. Where it is now a keyword, a gap beside it is empty only if it was so
beside a keyword before. -/
structure Joint.Respells (joint other : Joint) : Prop where
  operator : joint.operator = other.operator
  before : other.isWord = true → other.before.chars = [] →
    joint.isWord = true ∧ joint.before.chars = []
  after : other.isWord = true → other.after.chars = [] →
    joint.isWord = true ∧ joint.after.chars = []

/-- The second phrase is the first one in another spelling, at any number of places. A sign or an
operator may be written in another way that is one of its own, and a literal with the other quotes;
two field names and two method names stand for each other. Gaps may grow and shrink, but for those
beside keywords, and parentheses may be put around whatever stands between two of them or alone. -/
inductive Respells : {g : Grade} → Phrase g → Phrase g → Prop
  | same (p : Phrase g) : Respells p p
  | trans (first : Respells p q) (second : Respells q r) : Respells p r
  | value (writes : WritesValue term written) (other : WritesValue term rewritten) :
      Respells (.value writes) (.value other)
  | memberType (writes : WritesValue (.name ident) written)
      (other : WritesValue (.name synonym) rewritten) (known : ident ∈ ["type", "memberType"])
      (also : synonym ∈ ["type", "memberType"]) : Respells (.value writes) (.value other)
  | group (inner : Respells p q) : Respells (.group p) (.group q)
  | property (receiver : Respells p q) (selector other : Selector)
      (name : selector.name = other.name) : Respells (.property p selector) (.property q other)
  | bareCall (receiver : Respells p q) (selector other : Selector)
      (name : selector.name = other.name) (behind within behind' within' : Gap) :
      Respells (.bareCall p selector behind within) (.bareCall q other behind' within')
  | call (receiver : Respells p q) (selector other : Selector) (name : selector.name = other.name)
      (behind behind' : Gap) (given : Respells a b) :
      Respells (.call p selector behind a) (.call q other behind' b)
  | includes (receiver : Respells p q) (selector other : Selector)
      (known : selector.name ∈ ["includes", "contains"])
      (also : other.name ∈ ["includes", "contains"]) (behind behind' : Gap)
      (argument : Respells a b) :
      Respells (.call p selector behind (.last a)) (.call q other behind' (.last b))
  | last (argument : Respells a b) : Respells (.last a) (.last b)
  | more (argument : Respells a b) (others : Respells c d) : Respells (.more a c) (.more b d)
  | bare (core : Respells p q) : Respells (.bare p) (.bare q)
  | signed (writes : WritesSign s written) (other : WritesSign s rewritten) (gap gap' : Gap)
      (apart : s = .not → gap'.chars = [] → gap.chars = []) (operand : Respells p q) :
      Respells (.signed writes gap p) (.signed other gap' q)
  | single (operand : Respells p q) : Respells (.single p) (.single q)
  | joined {joint other : Joint} (first : Respells p q) (respelled : joint.Respells other)
      (others : Respells r t) : Respells (.joined p joint r) (.joined q other t)
  | enclosed (before after before' after' : Gap) (row : Respells p q) :
      Respells (.enclosed before p after) (.enclosed before' q after')
  | wrap (p : Phrase .enclosed) (before after : Gap) :
      Respells p (.enclosed before (.single (.bare (.group p))) after)

-- ---------------------------------------------------------------------------
-- Words beside each other
-- ---------------------------------------------------------------------------

theorem Grammar.WritesSign.startsWord (writes : WritesSign s written) :
    written.head?.any isNameChar = decide (s = .not) := by
  cases writes with
  | bang => rfl
  | not same =>
    obtain ⟨c, more, rfl⟩ := keyword_cons same (by decide)
    exact keyword_chars rfl same c List.mem_cons_self

theorem Grammar.WritesValue.startsWord (writes : WritesValue term written)
    (other : WritesValue term rewritten) :
    written.head?.any isNameChar = rewritten.head?.any isNameChar := by
  cases writes with
  | string quote _ =>
    cases other with
    | string quote' _ => cases quote <;> cases quote' <;> rfl
  | number _ | boolean _ | null | name _ _ =>
    cases other
    rfl

theorem Grammar.WritesValue.name_startsWord {called : String}
    (writes : WritesValue (.name called) written) :
    written.head?.any isNameChar = true := by
  cases writes with
  | name valid _ =>
    obtain ⟨c, more, split, start⟩ := isName_cons valid
    rw [split]
    exact isNameChar_of_isNameStart start

theorem Respells.words (respells : Respells p q) :
    p.startsWord = q.startsWord ∧ p.endsInWord = q.endsInWord := by
  induction respells with
  | same p => exact ⟨rfl, rfl⟩
  | trans _ _ first second => exact ⟨first.1.trans second.1, first.2.trans second.2⟩
  | value writes other => exact ⟨writes.startsWord other, rfl⟩
  | memberType writes other _ _ =>
    exact ⟨writes.name_startsWord.trans other.name_startsWord.symm, rfl⟩
  | property _ _ _ _ ih => exact ⟨ih.1, rfl⟩
  | bareCall _ _ _ _ _ _ _ _ ih => exact ⟨ih.1, rfl⟩
  | call _ _ _ _ _ _ _ ih _ => exact ⟨ih.1, rfl⟩
  | includes _ _ _ _ _ _ _ _ ih _ => exact ⟨ih.1, rfl⟩
  | bare _ ih => exact ih
  | signed writes other _ _ _ _ ih => exact ⟨writes.startsWord.trans other.startsWord.symm, ih.2⟩
  | single _ ih => exact ⟨ih.1, rfl⟩
  | joined _ _ _ ih _ => exact ⟨ih.1, rfl⟩
  | group | last | more | enclosed => exact ⟨rfl, rfl⟩
  | wrap p _ _ =>
    cases p
    exact ⟨rfl, rfl⟩

theorem Respells.apart (respells : Respells p q) (apart : p.Apart) : q.Apart := by
  induction respells with
  | same p => exact apart
  | trans _ _ first second => exact second (first apart)
  | value | memberType => trivial
  | group _ ih => exact ih apart
  | property _ _ _ _ ih => exact ih apart
  | bareCall _ _ _ _ _ _ _ _ ih => exact ih apart
  | call _ _ _ _ _ _ _ ih argued => exact ⟨ih apart.1, argued apart.2⟩
  | includes _ _ _ _ _ _ _ _ ih argued => exact ⟨ih apart.1, argued apart.2⟩
  | last _ ih => exact ih apart
  | more _ _ ih argued => exact ⟨ih apart.1, argued apart.2⟩
  | bare _ ih => exact ih apart
  | signed writes other gap gap' kept operand ih =>
    refine ⟨fun not none => ?_, ih apart.2⟩
    rw [← operand.words.1]
    exact apart.1 not (kept not none)
  | single _ ih => exact ih apart
  | joined first respelled others ih later =>
    obtain ⟨apartFirst, apartJoint, apartOthers⟩ := apart
    refine ⟨ih apartFirst, fun word => ⟨fun none => ?_, fun none => ?_⟩, later apartOthers⟩
    · obtain ⟨was, empty⟩ := respelled.before word none
      rw [← first.words.2]
      exact (apartJoint was).1 empty
    · obtain ⟨was, empty⟩ := respelled.after word none
      rw [← others.words.1]
      exact (apartJoint was).2 empty
  | enclosed _ _ _ _ _ ih => exact ih apart
  | wrap => exact apart

-- ---------------------------------------------------------------------------
-- Readings with one meaning
-- ---------------------------------------------------------------------------

structure Operand.Alike (first second : Operand) : Prop where
  signs : first.signs = second.signs
  term : first.term.resolve = second.term.resolve

structure Link.Alike (first second : Link) : Prop where
  operator : first.operator = second.operator
  operand : first.operand.Alike second.operand

def Grade.Alike : (g : Grade) → g.Reading → g.Reading → Prop
  | .core, first, second | .enclosed, first, second => first.resolve = second.resolve
  | .operand, first, second => first.Alike second
  | .row, first, second => first.1.Alike second.1 ∧ List.Forall₂ Link.Alike first.2 second.2
  | .arguments, first, second => Term.resolveAll first = Term.resolveAll second

namespace Term

theorem resolve_group (inner : Term) : resolve (.group inner) = resolve inner := by
  rw [resolve]

theorem resolve_group_congr (same : resolve a = resolve b) :
    resolve (.group a) = resolve (.group b) := by
  rw [resolve_group, resolve_group, same]

theorem resolve_signed_congr (same : resolve a = resolve b) (s : Sign) :
    resolve (.signed s a) = resolve (.signed s b) := by
  rw [resolve, resolve, same]

theorem resolve_binary_congr (left : resolve a = resolve b) (right : resolve c = resolve d)
    (op : Operator) : resolve (.binary op a c) = resolve (.binary op b d) := by
  rw [resolve, resolve, left, right]

theorem resolve_call_congr (receiver : resolve a = resolve b)
    (given : resolveAll l = resolveAll m) (method : String) :
    resolve (.call a method l) = resolve (.call b method m) := by
  rw [resolve, resolve, receiver, given]

theorem resolve_property_congr (receiver : resolve a = resolve b) (wanted : String) :
    resolve (.property a wanted) = resolve (.property b wanted) := by
  rw [resolve, resolve, receiver]

theorem resolveAll_cons_congr (first : resolve a = resolve b)
    (others : resolveAll l = resolveAll m) : resolveAll (a :: l) = resolveAll (b :: m) := by
  rw [resolveAll, resolveAll, first, others]

/-- The two names of one method are told apart in no call with a single argument. -/
theorem applyMethod_includes (receiver argument : Expr) (known : method ∈ ["includes", "contains"]) :
    applyMethod receiver method [argument] = applyOperator receiver argument .contains := by
  simp only [List.mem_cons, List.not_mem_nil, or_false] at known
  rcases known with rfl | rfl <;> rfl

theorem resolve_includes_congr (receiver : resolve a = resolve b)
    (argument : resolve c = resolve d) (known : method ∈ ["includes", "contains"])
    (also : synonym ∈ ["includes", "contains"]) :
    resolve (.call a method [c]) = resolve (.call b synonym [d]) := by
  rw [resolve, resolve, receiver, resolveAll_cons_congr argument rfl]
  cases resolve b with
  | error fault => rfl
  | ok first =>
    rw [resolveAll]
    cases resolve d with
    | error fault => rfl
    | ok second =>
      exact (applyMethod_includes first second known).trans
        (applyMethod_includes first second also).symm

theorem resolve_memberType (known : called ∈ ["type", "memberType"]) :
    resolve (.name called) = .ok (.field .memberType) := by
  simp only [List.mem_cons, List.not_mem_nil, or_false] at known
  rcases known with rfl | rfl <;> rfl

end Term

namespace Precedence

/-- Grouping goes by signs and operators alone, so operands that resolve alike are grouped to terms
that do. -/
theorem group_alike (fuel : Nat) :
    (∀ {first second links others}, Operand.Alike first second →
      List.Forall₂ Link.Alike links others →
      (operand fuel first links).1.resolve = (operand fuel second others).1.resolve ∧
        List.Forall₂ Link.Alike (operand fuel first links).2 (operand fuel second others).2) ∧
    (∀ level {lhs lhs' links others}, Term.resolve lhs = Term.resolve lhs' →
      List.Forall₂ Link.Alike links others →
      (extend fuel level lhs links).1.resolve = (extend fuel level lhs' others).1.resolve ∧
        List.Forall₂ Link.Alike (extend fuel level lhs links).2
          (extend fuel level lhs' others).2) := by
  induction fuel with
  | zero => exact ⟨fun same links => ⟨same.term, links⟩, fun _ _ _ _ _ same links => ⟨same, links⟩⟩
  | succ fuel ih =>
    obtain ⟨ofOperand, ofExtend⟩ := ih
    constructor
    · rintro ⟨signs, term⟩ ⟨_, other⟩ links others ⟨rfl, same⟩ alike
      replace same : term.resolve = other.resolve := same
      cases signs with
      | nil => exact ⟨same, alike⟩
      | cons sign signs =>
        have shorter : Operand.Alike ⟨signs, term⟩ ⟨signs, other⟩ := ⟨rfl, same⟩
        have inner := ofOperand shorter alike
        have whole := ofExtend (sign.level - 1) inner.1 inner.2
        exact ⟨Term.resolve_signed_congr whole.1 sign, whole.2⟩
    · intro level lhs lhs' links others same alike
      cases alike with
      | nil => exact ⟨same, .nil⟩
      | @cons link _ _ _ alikeLink later =>
        rw [extend, extend, ← alikeLink.operator]
        split
        · have opened := ofOperand alikeLink.operand later
          have right := ofExtend link.operator.level opened.1 opened.2
          exact ofExtend level (Term.resolve_binary_congr same right.1 _) right.2
        · exact ⟨same, .cons alikeLink later⟩

theorem resolve_group_congr (operand : first.Alike second)
    (alike : List.Forall₂ Link.Alike links others) :
    (group first links).resolve = (group second others).resolve := by
  have same : fuel first links = fuel second others := by
    rw [fuel, fuel, operand.signs]
    generalize 2 * second.signs.length + 2 = n
    induction alike generalizing n with
    | nil => rfl
    | cons link _ ih =>
      rw [List.foldl_cons, List.foldl_cons, link.operand.signs]
      exact ih _
  obtain ⟨ofOperand, ofExtend⟩ := group_alike (fuel first links)
  obtain ⟨opened, rest⟩ := ofOperand operand alike
  rw [group, group, ← same]
  exact (ofExtend 0 opened rest).1

end Precedence

theorem Operand.Alike.trans {a b c : Operand} (first : a.Alike b) (second : b.Alike c) :
    a.Alike c :=
  ⟨first.signs.trans second.signs, first.term.trans second.term⟩

theorem Link.alike_trans (first : List.Forall₂ Link.Alike a b) :
    ∀ {c}, List.Forall₂ Link.Alike b c → List.Forall₂ Link.Alike a c := by
  induction first with
  | nil => exact fun second => second
  | cons link _ ih =>
    rintro _ (_ | ⟨next, later⟩)
    exact .cons ⟨link.operator.trans next.operator, link.operand.trans next.operand⟩ (ih later)

theorem Grade.alike_refl (g : Grade) (reading : g.Reading) : g.Alike reading reading := by
  cases g with
  | core | enclosed | arguments => exact rfl
  | operand => exact ⟨rfl, rfl⟩
  | row => exact ⟨⟨rfl, rfl⟩, List.forall₂_same.mpr fun _ _ => ⟨rfl, rfl, rfl⟩⟩

theorem Grade.alike_trans (g : Grade) {first second third : g.Reading}
    (one : g.Alike first second) (two : g.Alike second third) : g.Alike first third := by
  cases g with
  | core | enclosed | arguments => exact Eq.trans one two
  | operand => exact Operand.Alike.trans one two
  | row => exact ⟨one.1.trans two.1, Link.alike_trans one.2 two.2⟩

theorem Respells.alike (respells : Respells p q) : Grade.Alike _ p.reading q.reading := by
  induction respells with
  | same p => exact Grade.alike_refl _ _
  | trans _ _ first second => exact Grade.alike_trans _ first second
  | value => exact rfl
  | memberType _ _ known also =>
    exact (Term.resolve_memberType known).trans (Term.resolve_memberType also).symm
  | group _ ih => exact Term.resolve_group_congr ih
  | property _ _ _ name ih =>
    rw [Phrase.reading, Phrase.reading, name]
    exact Term.resolve_property_congr ih _
  | bareCall _ _ _ name _ _ _ _ ih =>
    rw [Phrase.reading, Phrase.reading, name]
    exact Term.resolve_call_congr ih rfl _
  | call _ _ _ name _ _ _ ih argued =>
    rw [Phrase.reading, Phrase.reading, name]
    exact Term.resolve_call_congr ih argued _
  | includes _ _ _ known also _ _ _ ih argued =>
    exact Term.resolve_includes_congr ih argued known also
  | last _ ih => exact Term.resolveAll_cons_congr ih rfl
  | more _ _ ih argued => exact Term.resolveAll_cons_congr ih argued
  | bare _ ih => exact ⟨rfl, ih⟩
  | signed _ _ _ _ _ _ ih => exact ⟨congrArg (List.cons _) ih.signs, ih.term⟩
  | single _ ih => exact ⟨ih, .nil⟩
  | joined _ respelled _ ih later => exact ⟨ih, .cons ⟨respelled.operator, later.1⟩ later.2⟩
  | enclosed _ _ _ _ _ ih => exact Precedence.resolve_group_congr ih.1 ih.2
  | wrap p => exact (Term.resolve_group p.reading).symm

-- ---------------------------------------------------------------------------
-- Queries
-- ---------------------------------------------------------------------------

/-- A query that parses is the text of a phrase, and however the phrase is respelled, the new text
parses to the same expression if it passes the size check. -/
theorem parse_respelled {text : String} (parsed : parse text = .ok e) :
    (∃ p : Phrase .enclosed, p.Apart ∧ p.text = text) ∧
      ∀ {p q : Phrase .enclosed}, p.Apart → p.text = text → Respells p q →
        Size.check q.text = .ok () → parse q.text = .ok e := by
  obtain ⟨_, -, made⟩ := bind_ok parsed
  obtain ⟨term, written, resolved⟩ := bind_ok made
  constructor
  · obtain ⟨p, apart, whole, -⟩ := Phrase.exists_of_parse written
    exact ⟨p, apart, whole⟩
  · intro p q apart whole respells checked
    rw [← whole, p.parse_text apart] at written
    have same : p.reading = term := Except.ok.inj written
    have alike : q.reading.resolve = .ok e := by
      rw [← resolved, ← same]
      exact respells.alike.symm
    rw [parse, checked, q.parse_text (respells.apart apart)]
    exact alike

def Gap.space : Gap := ⟨[' '], List.forall_mem_singleton.mpr rfl⟩

def letterPhrase (quote : Quote) : Phrase .core :=
  .value (.string quote (@Grammar.Escaped.plain quote 'a' [] (by cases quote <;> decide) (by decide)
    .stop))

def namePhrase (name : String) (valid : Grammar.isName name.toList = true)
    (free : Term.reserved name = false) : Phrase .core :=
  .value (.name valid free)

def sampleRow (sign : List Char) (not : WritesSign .not sign) (selector : Selector)
    (argument : Phrase .enclosed) (conjunction equality : Joint) (field : Phrase .core)
    (quote : Quote) : Phrase .row :=
  .joined
    (.signed not .space
      (.bare (.call (namePhrase "name" rfl rfl) selector .none (.last argument))))
    conjunction (.joined (.bare field) equality (.single (.bare (letterPhrase quote))))

def tightSample : Phrase .enclosed :=
  .enclosed .none
    (sampleRow _ (@WritesSign.not "not".toList rfl) ⟨.none, .none, "includes", rfl⟩
      (.enclosed .none (.single (.bare (letterPhrase .single))) .none)
      ⟨.none, .and, _, .symbol .ampersands (by decide), .none⟩
      ⟨.none, .eq, _, .symbol .eq (by decide), .none⟩ (namePhrase "type" rfl rfl) .single)
    .none

def loosenedSample : Phrase .enclosed :=
  .enclosed .none
    (sampleRow _ (@WritesSign.not "NOT".toList rfl) ⟨.space, .none, "contains", rfl⟩
      (.enclosed .space (.single (.bare (.group
        (.enclosed .none (.single (.bare (letterPhrase .double))) .none)))) .none)
      ⟨.space, .and, "And".toList, .word .and rfl rfl, .space⟩
      ⟨.none, .eq, _, .symbol .tripleEq (by decide), .none⟩ (namePhrase "memberType" rfl rfl)
      .double)
    .space

def looseSample : Phrase .enclosed :=
  .enclosed .none (.single (.bare (.group loosenedSample))) .none

theorem respells_looseSample : Respells tightSample looseSample := by
  have quotes : Respells (letterPhrase .single) (letterPhrase .double) := .value _ _
  have argument : Respells (.enclosed .none (.single (.bare (letterPhrase .single))) .none)
      (.enclosed .space (.single (.bare (.group
        (.enclosed .none (.single (.bare (letterPhrase .double))) .none)))) .none) :=
    .trans (.enclosed _ _ _ _ (.single (.bare quotes))) (.wrap _ _ _)
  have type : Respells (namePhrase "type" rfl rfl) (namePhrase "memberType" rfl rfl) :=
    .memberType _ _ (by decide) (by decide)
  have inner : Respells tightSample loosenedSample :=
    .enclosed _ _ _ _ (.joined
      (.signed _ _ _ _ (fun _ none => none)
        (.bare (.includes (.same _) _ _ (by decide) (by decide) _ _ argument)))
      ⟨rfl, fun _ => nofun, fun _ => nofun⟩
      (.joined (.bare type) ⟨rfl, nofun, nofun⟩ (.single (.bare quotes))))
  exact inner.trans (.wrap _ _ _)

def sampleTree : Expr :=
  .and (.not (.text .contains (.field .name) (.literal (.string "a"))))
    (.compare .eq (.field .memberType) (.literal (.string "a")))

/-- Every kind of respelling at once. -/
theorem parse_respelled_loose :
    parse "not name.includes('a')&&type=='a'" = .ok sampleTree ∧ tightSample.Apart ∧
      tightSample.text = "not name.includes('a')&&type=='a'" ∧ Respells tightSample looseSample ∧
      looseSample.text = "(NOT name .contains( (\"a\")) And memberType===\"a\" )" ∧
      parse "(NOT name .contains( (\"a\")) And memberType===\"a\" )" = .ok sampleTree := by
  have parsed : parse "not name.includes('a')&&type=='a'" = .ok sampleTree := by decide +kernel
  have apart : tightSample.Apart :=
    ⟨⟨fun _ => nofun, .intro, .intro⟩, nofun, .intro, nofun, .intro⟩
  have whole : tightSample.text = "not name.includes('a')&&type=='a'" := by decide
  have respelled : looseSample.text = "(NOT name .contains( (\"a\")) And memberType===\"a\" )" := by
    decide
  have checked : Size.check looseSample.text = .ok () := by decide +kernel
  refine ⟨parsed, apart, whole, respells_looseSample, respelled, ?_⟩
  rw [← respelled]
  exact (parse_respelled parsed).2 apart whole respells_looseSample checked

end RefViewer.Query

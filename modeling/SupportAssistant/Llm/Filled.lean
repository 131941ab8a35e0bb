import SupportAssistant.Effects.Mapping
import SupportAssistant.Guardrails.Grounding
import SupportAssistant.Llm.Templates
import SupportAssistant.Text.Assembly

/-!
# Templates, filled

A rendered reply is the prose of its template with the fields filled in.  The
prose sets the fields apart: no word and no number of the reply reaches out of
the part that it begins in.
-/

namespace SupportAssistant.Llm.Filled

open SupportAssistant.Effects.Mapping
open SupportAssistant.Text.Tokens
open SupportAssistant.Text.WholeWords
open SupportAssistant.Text.Numerals
open SupportAssistant.Text.Assembly
open SupportAssistant.Enums
open SupportAssistant.Runtime
open SupportAssistant.Domain
open SupportAssistant.Guardrails.Facts
open SupportAssistant.Guardrails.Grounding
open SupportAssistant.Llm.Templates

/-! ## The fields of a reply -/

/-- The fields that cite an invoice. -/
def invoiceContext (name : String) (invoice : InvoiceFact) : Context :=
  [("name", name), ("invoice_id", invoice.invoiceId),
    ("amount", formatAmount invoice.amount), ("currency", invoice.currency)]

/-- The fields that cite a session, its status among them. -/
def sessionContext (name : String) (session : SessionFact) : Context :=
  [("name", name), ("station", session.station),
    ("status", session.status.value), ("kwh", formatAmount session.kwh),
    ("cost", formatAmount session.cost)]

/-- The user of the facts has this name, and it is not empty. -/
def Addressed (facts : FactSet) (user : String) : Prop :=
  facts.userName = some user ∧ user ≠ ""

section

variable {py : PyText} {facts : FactSet} {reply : String}

theorem nameOf_ok {name : String} (named : nameOf py facts = .ok name) :
    Addressed facts name := by
  unfold nameOf at named
  split at named
  · rename_i known
    split at named
    · simp at named
    · rename_i nonempty
      cases Except.ok.inj named
      exact ⟨known, nonempty⟩
  · simp at named

theorem nameOf_of_addressed
    {user : String} (addressed : Addressed facts user) :
    nameOf py facts = .ok user := by
  simp only [nameOf, addressed.1, if_neg addressed.2]

theorem render_ok
    {template : Template} (rendered : template.render py facts = .ok reply) :
    ∃ context, template.context facts = .ok context ∧
      format py template.body context = .ok reply := by
  unfold Template.render at rendered
  cases selected : template.context facts with
  | error exc => simp [selected, bind, Except.bind] at rendered
  | ok context =>
      rw [selected] at rendered
      exact ⟨context, rfl, rendered⟩

theorem nameOnly_ok
    {context : Context} (selected : nameOnly py facts = .ok context) :
    ∃ name, Addressed facts name ∧ context = [("name", name)] := by
  unfold nameOnly at selected
  cases named : nameOf py facts with
  | error exc => simp [named, bind, Except.bind] at selected
  | ok name =>
      simp only [named, bind, Except.bind, Except.ok.injEq] at selected
      exact ⟨name, nameOf_ok named, selected.symm⟩

/-- The invoice that is selected is the first one with the status. -/
theorem invoiceWith_ok
    {status : InvoiceStatus} {context : Context}
    (selected : invoiceWith py status facts = .ok context) :
    ∃ name invoice, Addressed facts name ∧
      facts.invoices.find? (·.status = status) = some invoice ∧
        context = invoiceContext name invoice := by
  unfold invoiceWith firstInvoice at selected
  cases found : facts.invoices.find? (·.status = status) with
  | none => simp [found, bind, Except.bind] at selected
  | some invoice =>
      cases named : nameOf py facts with
      | error exc => simp [found, named, bind, Except.bind] at selected
      | ok name =>
          simp only [found, named, bind, Except.bind, Except.ok.injEq]
            at selected
          exact ⟨name, invoice, nameOf_ok named, rfl, selected.symm⟩

theorem latestSession_ok
    {context : Context} (selected : latestSession py facts = .ok context) :
    ∃ name session, Addressed facts name ∧
      facts.sessions.head? = some session ∧
        context = sessionContext name session := by
  unfold latestSession at selected
  split at selected
  · simp at selected
  · rename_i session earlier sessions
    cases named : nameOf py facts with
    | error exc => simp [named, bind, Except.bind] at selected
    | ok name =>
        simp only [named, bind, Except.bind, Except.ok.injEq] at selected
        exact ⟨name, session, nameOf_ok named, by rw [sessions]; rfl,
          selected.symm⟩

/-- A reply is rendered for no one without a name. -/
theorem addressed_of_render
    {name : ReplyTemplate}
    (rendered : (specFor py name).render py facts = .ok reply) :
    ∃ user, Addressed facts user := by
  rcases render_ok rendered with ⟨context, selected, -⟩
  have ofInvoice : ∀ status, invoiceWith py status facts = .ok context →
      ∃ user, Addressed facts user := by
    intro status chosen
    rcases invoiceWith_ok chosen with ⟨user, invoice, addressed, -⟩
    exact ⟨user, addressed⟩
  have ofSession : latestSession py facts = .ok context →
      ∃ user, Addressed facts user := by
    intro chosen
    rcases latestSession_ok chosen with ⟨user, session, addressed, -⟩
    exact ⟨user, addressed⟩
  cases name with
  | billingAllPaid =>
      rcases nameOnly_ok selected with ⟨user, addressed, -⟩
      exact ⟨user, addressed⟩
  | billingFailed => exact ofInvoice .failed selected
  | billingPending => exact ofInvoice .pending selected
  | sessionCompleted => exact ofSession selected
  | sessionInterrupted => exact ofSession selected

end

/-! ## The parts of a reply -/

def filledSegment (fill : String → List Char) : Segment → Part
  | .text text => .prose text.toList
  | .field name => .field (fill name)

/-- The parts of a body, each field filled in. -/
def filled (fill : String → List Char) (body : List Segment) : List Part :=
  body.map (filledSegment fill)

/-- What a field is filled with. -/
def valueOf (context : Context) (name : String) : List Char :=
  ((context.lookup name).getD "").toList

theorem formatSegment_ok
    {py : PyText} {context : Context} {segment : Segment} {text : String}
    (formatted : formatSegment py context segment = .ok text) :
    text.toList = (filledSegment (valueOf context) segment).text := by
  cases segment with
  | text prose =>
      rw [← Except.ok.inj formatted]
      rfl
  | field name =>
      simp only [formatSegment] at formatted
      split at formatted
      · rename_i value known
        rw [← Except.ok.inj formatted, filledSegment, Part.text, valueOf,
          known, Option.getD_some]
      · simp at formatted

theorem toList_join (texts : List String) :
    (join "" texts).toList = texts.flatMap String.toList := by
  rw [join, String.toList_intercalate]
  induction texts with
  | nil => rfl
  | cons text texts induction =>
      rw [List.map_cons, List.flatMap_cons, ← induction]
      cases texts <;> simp

/-- A reply is made of the parts of its body. -/
theorem format_ok
    {py : PyText} {body : List Segment} {context : Context} {reply : String}
    (formatted : format py body context = .ok reply) :
    reply.toList = assembled (filled (valueOf context) body) := by
  unfold format at formatted
  cases ran : body.mapM (formatSegment py context) with
  | error exc => simp [ran, bind, Except.bind] at formatted
  | ok texts =>
      simp only [ran, bind, Except.bind, Except.ok.injEq] at formatted
      have each := mapM_ok_iff_forall₂.mp ran
      rw [← formatted, toList_join]
      clear ran formatted
      induction each with
      | nil => rfl
      | cons first rest induction =>
          rw [List.flatMap_cons, induction, formatSegment_ok first]
          rfl

/-! ## Fields set apart by prose -/

def isGap (char : Char) : Bool :=
  char == ' ' || char == '\n'

/-- Prose that ends with a gap. -/
def endsApart (text : List Char) : Bool :=
  text.getLast?.all isGap

/-- Prose that begins with a gap, or with a mark and a gap behind it. -/
def beginsApart : List Char → Bool
  | [] => false
  | first :: rest =>
      isGap first || (isSeparator first && rest.head?.any isGap)

-- in a proof, unification spells a literal out as its characters; its `toList`
-- is never evaluated

/-- Every field has such prose on both sides. -/
inductive SetApart : List Segment → Prop where
  | nil : SetApart []
  | text {chars : List Char} {rest : List Segment}
      (ends : endsApart chars = true) (later : SetApart rest) :
      SetApart (.text (String.ofList chars) :: rest)
  | field (name : String) {chars : List Char} {rest : List Segment}
      (begins : beginsApart chars = true)
      (later : SetApart (.text (String.ofList chars) :: rest)) :
      SetApart (.field name :: .text (String.ofList chars) :: rest)

/-- All prose of the body passes the check. -/
inductive AllProse (check : List Char → Bool) : List Segment → Prop where
  | nil : AllProse check []
  | text {chars : List Char} {rest : List Segment}
      (passes : check chars = true) (later : AllProse check rest) :
      AllProse check (.text (String.ofList chars) :: rest)
  | field (name : String) {rest : List Segment}
      (later : AllProse check rest) :
      AllProse check (.field name :: rest)

theorem setApart_specFor (py : PyText) (name : ReplyTemplate) :
    SetApart (specFor py name).body := by
  cases name <;>
    · repeat' first
        | apply SetApart.text
        | apply SetApart.field
        | apply SetApart.nil
      all_goals rfl

theorem AllProse.passes
    {check : List Char → Bool} {body : List Segment}
    (all : AllProse check body) {text : String}
    (member : .text text ∈ body) :
    check text.toList = true := by
  induction all with
  | nil => simp at member
  | text passes later induction =>
      rcases List.mem_cons.mp member with same | inRest
      · rw [Segment.text.inj same, String.toList_ofList]
        exact passes
      · exact induction inRest
  | field name later induction =>
      rcases List.mem_cons.mp member with same | inRest
      · exact Segment.noConfusion same
      · exact induction inRest

theorem framed_filled
    {munch : Munch}
    (gaps : ∀ char, isGap char = true → Separates munch char)
    (begins : ∀ text, beginsApart text = true → ∀ rest,
      Opens munch (text ++ rest))
    (fill : String → List Char) {body : List Segment}
    (apart : SetApart body) :
    Framed munch (filled fill body) := by
  induction apart with
  | nil => trivial
  | @text chars rest ends later induction =>
      refine ⟨?_, induction⟩
      intro last isLast
      rw [String.toList_ofList] at isLast
      apply gaps
      rw [endsApart, isLast] at ends
      exact ends
  | @field name chars rest beginning later induction =>
      refine ⟨?_, induction⟩
      have opens := begins chars beginning (assembled (filled fill rest))
      rw [← @String.toList_ofList chars] at opens
      exact opens

section

variable (py : PyText)

theorem isWord_gap {char : Char} (gap : isGap char = true) :
    py.isWord char = false := by
  rcases Bool.or_eq_true_iff.mp gap with isBlank | isLine
  · rw [beq_iff_eq.mp isBlank, py.asciiWord ' ' (by decide)]
    rfl
  · rw [beq_iff_eq.mp isLine, py.asciiWord '\n' (by decide)]
    rfl

theorem isWord_separator {char : Char} (separates : isSeparator char = true) :
    py.isWord char = false := by
  rcases Bool.or_eq_true_iff.mp separates with isPoint | isComma
  · rw [beq_iff_eq.mp isPoint, py.asciiWord '.' (by decide)]
    rfl
  · rw [beq_iff_eq.mp isComma, py.asciiWord ',' (by decide)]
    rfl

/-- What is no word character is no digit. -/
theorem isDigit_of_notWord {char : Char} (notWord : py.isWord char = false) :
    py.isDigit char = false := by
  by_contra isDigit
  rw [Bool.not_eq_false] at isDigit
  rw [py.digit_isWord char isDigit] at notWord
  exact Bool.noConfusion notWord

theorem isSeparator_gap {char : Char} (gap : isGap char = true) :
    isSeparator char = false := by
  rcases Bool.or_eq_true_iff.mp gap with isBlank | isLine
  · rw [beq_iff_eq.mp isBlank]
    rfl
  · rw [beq_iff_eq.mp isLine]
    rfl

/-- Prose that begins apart begins with no word, at a mark not even behind. -/
theorem exists_of_beginsApart
    {text : List Char} (begins : beginsApart text = true) :
    ∃ first rest, text = first :: rest ∧
      py.isWord first = false ∧
        (isSeparator first = true → ∃ second later,
          rest = second :: later ∧ py.isWord second = false) := by
  cases text with
  | nil => simp [beginsApart] at begins
  | cons first rest =>
    refine ⟨first, rest, rfl, ?_⟩
    rcases Bool.or_eq_true_iff.mp begins with gap | mark
    · refine ⟨isWord_gap py gap, ?_⟩
      intro separates
      rw [isSeparator_gap gap] at separates
      exact Bool.noConfusion separates
    · rw [Bool.and_eq_true] at mark
      refine ⟨isWord_separator py mark.1, ?_⟩
      intro _
      cases rest with
      | nil => simp at mark
      | cons second later =>
          exact ⟨second, later, rfl, isWord_gap py mark.2⟩

/-- The words of a reply are those of its parts. -/
theorem framed_words (fill : String → List Char) (name : ReplyTemplate) :
    Framed (wordMunch py.isWord) (filled fill (specFor py name).body) := by
  apply framed_filled _ _ fill (setApart_specFor py name)
  · intro char gap
    exact wordMunch_separates (isWord_gap py gap)
  · intro text begins rest count
    rcases exists_of_beginsApart py begins with
      ⟨first, later, isText, notWord, -⟩
    apply wordMunch_breaks
    intro char behind taken
    rw [isText] at taken
    cases count with
    | zero => simp at taken
    | succ count =>
        rw [List.cons_append, List.take_succ_cons, List.cons.injEq] at taken
        rw [← taken.1]
        exact notWord

/-- The numbers of a reply are those of its parts. -/
theorem framed_numerals (fill : String → List Char) (name : ReplyTemplate) :
    Framed (numeralMunch py.isDigit isSeparator)
      (filled fill (specFor py name).body) := by
  apply framed_filled _ _ fill (setApart_specFor py name)
  · intro char gap
    exact numeralMunch_separates
      (isDigit_of_notWord py (isWord_gap py gap)) (isSeparator_gap gap)
  · intro text begins rest count
    rcases exists_of_beginsApart py begins with
      ⟨first, later, isText, notWord, notJoined⟩
    apply BeginsBehind.breaks
    apply BeginsBehind.head _ (List.take_prefix count _)
    rw [isText]
    constructor
    · intro char behind equal
      rw [List.cons_append, List.cons.injEq] at equal
      rw [← equal.1]
      exact isDigit_of_notWord py notWord
    · intro separator char behind equal separates
      rw [List.cons_append, List.cons.injEq] at equal
      rw [← equal.1] at separates
      rcases notJoined separates with ⟨second, end_, rfl, notWord⟩
      rw [List.cons_append, List.cons.injEq] at equal
      rw [← equal.2.1]
      exact isDigit_of_notWord py notWord

end

end SupportAssistant.Llm.Filled

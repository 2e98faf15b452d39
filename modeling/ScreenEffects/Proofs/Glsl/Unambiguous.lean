import Mathlib.Data.Nat.Init
import ScreenEffects.Proofs.Glsl.Syntax

/-!
# The spelling of an expression is unambiguous

No two grammatical expressions are spelled alike, and no two programs are
(`Expression.Spells.eq`, `Program.Spells.eq`), so a text has one meaning at most.

The proof follows a reader that goes through the words from left to right and never back
(`Reads`): after an operand of some tier, the next word alone says whether the operand grows, and
how. Each grammatical expression is read from its spelling (`Reads.of_spelling`), and no two
expressions are read from the same words (`Reads.unique`).
-/

namespace ScreenEffects.Glsl

namespace Expression

/-! ## Reading -/

/-- The word, behind an expression of a tier, belongs to a larger expression of this tier. -/
def Continues (t : Nat) : Word → Prop
  | .operator o => o.tier ≤ t
  | .mark c => c = '.' ∨ c = '(' ∨ c = '?' ∧ 5 ≤ t
  | _ => False

/-- An expression of a tier ends in front of the words. -/
def Ends (t : Nat) (ws : List Word) : Prop := ∀ w ∈ ws.head?, ¬ Continues t w

/-- `Reads none t ws e rest`: the expression of tier `t` at the front of the words is `e`, and the
words after it are `rest`. `Reads (some a) t ws e rest`: it is `e` if the words stand behind `a`. -/
inductive Reads : Option Expression → Nat → List Word → Expression → List Word → Prop
  | number {l : List Char} {ws e rest} (next : Reads (some (.number l)) 0 ws e rest) :
    Reads none 0 (.number l :: ws) e rest
  | name {x : String} {ws e rest} (bare : ws.head? ≠ some (.mark '('))
      (next : Reads (some (.name x)) 0 ws e rest) :
    Reads none 0 (.name x :: ws) e rest
  | parenthesized {a ws ws' e rest} (inner : Reads none 6 ws a (.mark ')' :: ws'))
      (next : Reads (some (.parenthesized a)) 0 ws' e rest) :
    Reads none 0 (.mark '(' :: ws) e rest
  | call {f : String} {a ws ws' e rest} (inner : Reads none 6 ws a (.mark ')' :: ws'))
      (next : Reads (some (.call f a)) 0 ws' e rest) :
    Reads none 0 (.name f :: .mark '(' :: ws) e rest
  | loosen {t a ws ws' e rest} (first : Reads none t ws a ws')
      (next : Reads (some a) (t + 1) ws' e rest) :
    Reads none (t + 1) ws e rest
  | field {a} {f : String} {ws e rest} (next : Reads (some (.field a f)) 0 ws e rest) :
    Reads (some a) 0 (.mark '.' :: .name f :: ws) e rest
  | operator {a} {o : Operator} {t r ws ws' e rest} (tier : o.tier = t + 1)
      (right : Reads none t ws r ws') (next : Reads (some (.binary o a r)) (t + 1) ws' e rest) :
    Reads (some a) (t + 1) (.operator o :: ws) e rest
  | choice {a u v ws ws' rest} (tighter : a.tier < 5)
      (yes : Reads none 6 ws u (.mark ':' :: ws')) (no : Reads none 5 ws' v rest) :
    Reads (some a) 5 (.mark '?' :: ws) (.choice a u v) rest
  | done {a t ws} (ends : Ends t ws) : Reads (some a) t ws a ws

variable {a e e' : Expression} {t t' : Nat} {ws rest rest' : List Word}

theorem Ends.of_le (h : Ends t ws) (le : t' ≤ t) : Ends t' ws := by
  intro w hw continues
  refine h w hw ?_
  cases w with
  | operator o => exact Nat.le_trans continues le
  | mark c => exact continues.imp id (.imp id (.imp id fun five => Nat.le_trans five le))
  | _ => exact continues

/-- The words from which the expression is read determine it, and where it ends. -/
theorem Reads.unique {before : Option Expression} (h : Reads before t ws e rest)
    (h' : Reads before t ws e' rest') : e = e' ∧ rest = rest' := by
  induction h generalizing e' rest' with
  | number next ih =>
    cases h' with
    | number next' => exact ih next'
  | name bare next ih =>
    cases h' with
    | name _ next' => exact ih next'
    | call => exact absurd rfl bare
  | parenthesized inner next ihInner ih =>
    cases h' with
    | parenthesized inner' next' =>
      obtain ⟨rfl, same⟩ := ihInner inner'
      cases same
      exact ih next'
  | call inner next ihInner ih =>
    cases h' with
    | name bare => exact absurd rfl bare
    | call inner' next' =>
      obtain ⟨rfl, same⟩ := ihInner inner'
      cases same
      exact ih next'
  | loosen first next ihFirst ih =>
    cases h' with
    | loosen first' next' =>
      obtain ⟨rfl, rfl⟩ := ihFirst first'
      exact ih next'
  | field next ih =>
    cases h' with
    | field next' => exact ih next'
    | done ends => exact absurd (.inl rfl) (ends _ rfl)
  | operator tier right next ihRight ih =>
    cases h' with
    | operator tier' right' next' =>
      obtain ⟨rfl, rfl⟩ := ihRight right'
      exact ih next'
    | done ends => exact absurd (Nat.le_of_eq tier) (ends _ rfl)
  | choice tighter yes no ihYes ihNo =>
    cases h' with
    | choice _ yes' no' =>
      obtain ⟨rfl, same⟩ := ihYes yes'
      cases same
      obtain ⟨rfl, rfl⟩ := ihNo no'
      exact ⟨rfl, rfl⟩
    | done ends => exact absurd (.inr (.inr ⟨rfl, Nat.le_refl 5⟩)) (ends _ rfl)
  | done ends =>
    cases h' with
    | field => exact absurd (.inl rfl) (ends _ rfl)
    | operator tier => exact absurd (Nat.le_of_eq tier) (ends _ rfl)
    | choice => exact absurd (.inr (.inr ⟨rfl, Nat.le_refl 5⟩)) (ends _ rfl)
    | done => exact ⟨rfl, rfl⟩

/-! ## Reading a spelling -/

/-- What is read behind an operand starts with no parenthesis: a name in front of one is called. -/
theorem Reads.head?_ne (h : Reads (some a) t ws e rest) : ws.head? ≠ some (.mark '(') := by
  cases h with
  | field | operator | choice => simp
  | done ends => exact fun paren => ends _ paren (.inr (.inl rfl))

/-- What makes an operand of a tier grow is nothing that would make one of a tighter tier grow. -/
theorem Reads.ends (h : Reads (some a) (t + 1) ws e rest) : Ends t ws := by
  cases h with
  | operator tier =>
    rintro w ⟨⟩ continues
    exact Nat.not_succ_le_self t (Nat.le_trans (Nat.le_of_eq tier.symm) continues)
  | choice =>
    rintro w ⟨⟩ (h | h | h)
    · exact absurd h (by decide)
    · exact absurd h (by decide)
    · exact absurd h.2 (Nat.not_succ_le_self 4)
  | done ends => exact ends.of_le (Nat.le_succ t)

/-- A choice grows no further. -/
theorem Reads.of_choice {c u v : Expression} (h : Reads (some (.choice c u v)) 5 ws e rest) :
    e = .choice c u v ∧ ws = rest ∧ Ends 5 ws := by
  cases h with
  | @operator _ o _ _ _ _ _ _ tier => cases o <;> cases tier
  | choice tighter => exact absurd tighter (Nat.lt_irrefl 5)
  | done ends => exact ⟨rfl, rfl, ends⟩

/-- An expression that is read as an operand of a tier is read as one of a looser tier. -/
theorem Reads.of_le {spelling : List Word} (le : t ≤ t')
    (read : ∀ rest e' rest', Reads (some e) t rest e' rest' →
      Reads none t (spelling ++ rest) e' rest') (h : Reads (some e) t' rest e' rest') :
    Reads none t' (spelling ++ rest) e' rest' := by
  induction t', le using Nat.le_induction generalizing rest e' rest' with
  | base => exact read rest e' rest' h
  | succ t' le ih => exact .loosen (ih (.done h.ends)) h

theorem tier_le (e : Expression) : e.tier ≤ 6 := by
  cases e with
  | binary o l r => exact (by cases o <;> decide : o.tier ≤ 6)
  | choice => exact Nat.le_succ 5
  | _ => exact Nat.zero_le 6

theorem ends_of_mark {c : Char} (apart : c ≠ '.' ∧ c ≠ '(' ∧ c ≠ '?') (t : Nat)
    (ws : List Word) : Ends t (.mark c :: ws) := by
  rintro w ⟨⟩ (h | h | h)
  · exact apart.1 h
  · exact apart.2.1 h
  · exact apart.2.2 h.1

/-- **A grammatical expression is read from its spelling.** What is read from its spelling and more
words is what is read from these words behind it. -/
theorem Reads.of_spelling (grammatical : e.isGrammatical = true) (le : e.tier ≤ t)
    (h : Reads (some e) t rest e' rest') : Reads none t (e.spelling ++ rest) e' rest' := by
  induction e generalizing t rest e' rest' with
  | number l => exact .of_le le (fun _ _ _ => .number) h
  | name x => exact .of_le le (fun _ _ _ next => .name next.head?_ne next) h
  | parenthesized e ih =>
    refine .of_le le (fun rest _ _ next => ?_) h
    have inner := ih grammatical e.tier_le (.done (ends_of_mark (c := ')') (by decide) 6 rest))
    rw [spelling, List.cons_append, List.append_assoc]
    exact .parenthesized inner next
  | field e f ih =>
    obtain ⟨grammatical, tight⟩ := Bool.and_eq_true_iff.1 grammatical
    refine .of_le le (fun rest _ _ next => ?_) h
    rw [spelling, List.append_assoc]
    exact ih grammatical (Nat.le_of_eq (beq_iff_eq.1 tight)) (.field next)
  | call f as ih =>
    refine .of_le le (fun rest _ _ next => ?_) h
    have inner := ih grammatical as.tier_le (.done (ends_of_mark (c := ')') (by decide) 6 rest))
    rw [spelling, List.cons_append, List.cons_append, List.append_assoc]
    exact .call inner next
  | binary o l r ihl ihr =>
    simp only [isGrammatical, Bool.and_eq_true, decide_eq_true_eq] at grammatical
    obtain ⟨⟨⟨left, right⟩, loose⟩, tight⟩ := grammatical
    refine .of_le le (fun rest _ _ next => ?_) h
    obtain ⟨t, tier⟩ : ∃ t, o.tier = t + 1 := Nat.exists_eq_succ_of_ne_zero (by omega)
    simp only [Expression.tier, tier] at next ⊢
    have inner := ihr right (by omega) (.done next.ends)
    rw [spelling, List.append_assoc]
    exact ihl left (by omega) (.operator tier inner next)
  | choice c u v ihc ihu ihv =>
    simp only [isGrammatical, Bool.and_eq_true, decide_eq_true_eq] at grammatical
    obtain ⟨⟨⟨⟨condition, yes⟩, no⟩, tight⟩, loose⟩ := grammatical
    refine .of_le le (fun rest _ _ next => ?_) h
    obtain ⟨rfl, rfl, ends⟩ := next.of_choice
    have first := ihu yes u.tier_le
      (.done (ends_of_mark (c := ':') (by decide) 6 (v.spelling ++ rest)))
    have second := ihv no loose (.done ends)
    rw [spelling, List.append_assoc, List.cons_append, List.append_assoc, List.cons_append]
    exact ihc condition (Nat.le_of_lt tight) (.choice tight first second)

/-- Grammatical expressions that are spelled alike, as far as they go, are the same. -/
theorem spelling_append_inj (grammatical : e.isGrammatical = true)
    (grammatical' : e'.isGrammatical = true) (ends : Ends 6 rest) (ends' : Ends 6 rest')
    (same : e.spelling ++ rest = e'.spelling ++ rest') : e = e' ∧ rest = rest' := by
  have read : Reads none 6 (e.spelling ++ rest) e rest :=
    .of_spelling grammatical e.tier_le (.done ends)
  have read' : Reads none 6 (e'.spelling ++ rest') e' rest' :=
    .of_spelling grammatical' e'.tier_le (.done ends')
  exact read.unique (same ▸ read')

/-- **A text spells one expression at most.** -/
theorem Spells.eq {text : String} (h : e.Spells text) (h' : e'.Spells text) : e = e' := by
  have ends : Ends 6 [] := fun w hw => nomatch hw
  refine (spelling_append_inj h.1 h'.1 ends ends ?_).1
  rw [h.2, h'.2]

end Expression

/-! ## Programs -/

/-- Lists whose elements are told apart by their spellings are told apart by theirs, up to words with
which no spelling starts. -/
theorem flatMap_append_inj {β : Type} {spelling : β → List Word} {good : β → Bool}
    (stop : List Word → Prop) (apart : ∀ b rest, ¬ stop (spelling b ++ rest))
    (inj : ∀ {b b' rest rest'}, good b = true → good b' = true →
      spelling b ++ rest = spelling b' ++ rest' → b = b' ∧ rest = rest')
    {bs bs' : List β} {rest rest' : List Word} (all : bs.all good = true)
    (all' : bs'.all good = true) (h : stop rest) (h' : stop rest')
    (same : bs.flatMap spelling ++ rest = bs'.flatMap spelling ++ rest') :
    bs = bs' ∧ rest = rest' := by
  induction bs generalizing bs' with
  | nil =>
    cases bs' with
    | nil => exact ⟨rfl, same⟩
    | cons b' bs' =>
      rw [List.flatMap_cons, List.append_assoc] at same
      exact absurd ((show rest = _ from same) ▸ h) (apart b' _)
  | cons b bs ih =>
    cases bs' with
    | nil =>
      rw [List.flatMap_cons, List.append_assoc] at same
      exact absurd ((show rest' = _ from same.symm) ▸ h') (apart b _)
    | cons b' bs' =>
      simp only [List.flatMap_cons, List.append_assoc, List.all_cons, Bool.and_eq_true] at *
      obtain ⟨rfl, later⟩ := inj all.1 all'.1 same
      obtain ⟨rfl, rfl⟩ := ih all.2 all'.2 later
      exact ⟨rfl, rfl⟩

variable {rest rest' : List Word}

theorem Statement.spelling_append_inj {s s' : Statement} (grammatical : s.isGrammatical = true)
    (grammatical' : s'.isGrammatical = true) (same : s.spelling ++ rest = s'.spelling ++ rest') :
    s = s' ∧ rest = rest' := by
  have closed (ws : List Word) : Expression.Ends 6 (.mark ';' :: ws) :=
    Expression.ends_of_mark (by decide) 6 ws
  cases s with
  | define type x e =>
    cases s' with
    | define type' x' e' =>
      simp only [spelling, List.cons_append, List.append_assoc, List.nil_append, List.cons.injEq,
        Word.name.injEq, true_and] at same
      obtain ⟨rfl, rfl, same⟩ := same
      obtain ⟨rfl, later⟩ := Expression.spelling_append_inj (Bool.and_eq_true_iff.1 grammatical).1
        (Bool.and_eq_true_iff.1 grammatical').1 (closed rest) (closed rest') same
      exact ⟨rfl, List.tail_eq_of_cons_eq later⟩
    | give e' => cases (List.cons.inj same).1
  | give e =>
    cases s' with
    | define type' x' e' => cases (List.cons.inj same).1
    | give e' =>
      simp only [spelling, List.cons_append, List.append_assoc, List.nil_append, List.cons.injEq,
        true_and] at same
      obtain ⟨rfl, later⟩ := Expression.spelling_append_inj grammatical grammatical'
        (closed rest) (closed rest') same
      exact ⟨rfl, List.tail_eq_of_cons_eq later⟩

theorem parametersSpelling_append_inj {ps ps' : List Parameter}
    (same : parametersSpelling ps ++ rest = parametersSpelling ps' ++ rest') :
    ps = ps' ∧ rest = rest' := by
  induction ps generalizing ps' with
  | nil =>
    match ps' with
    | [] => exact ⟨rfl, List.tail_eq_of_cons_eq same⟩
    | [_] | _ :: _ :: _ => cases (List.cons.inj same).1
  | cons p ps ih =>
    obtain ⟨type, name⟩ := p
    match ps, ps' with
    | [], [] | _ :: _, [] => cases (List.cons.inj same).1
    | [], [⟨type', name'⟩] =>
      simp only [parametersSpelling, Parameter.spelling, List.cons_append, List.nil_append,
        List.cons.injEq, Word.name.injEq, true_and] at same
      obtain ⟨rfl, rfl, rfl⟩ := same
      exact ⟨rfl, rfl⟩
    | [], ⟨type', name'⟩ :: q' :: ps' =>
      simp [parametersSpelling, Parameter.spelling] at same
    | q :: ps, [⟨type', name'⟩] =>
      simp [parametersSpelling, Parameter.spelling] at same
    | q :: ps, ⟨type', name'⟩ :: q' :: ps' =>
      simp only [parametersSpelling, Parameter.spelling, List.cons_append, List.nil_append,
        List.cons.injEq, Word.name.injEq, true_and] at same
      obtain ⟨rfl, rfl, same⟩ := same
      obtain ⟨later, rfl⟩ := ih same
      exact ⟨congrArg _ later, rfl⟩

theorem Function.spelling_append_inj {f f' : Function} (grammatical : f.isGrammatical = true)
    (grammatical' : f'.isGrammatical = true) (same : f.spelling ++ rest = f'.spelling ++ rest') :
    f = f' ∧ rest = rest' := by
  obtain ⟨type, name, parameters, body⟩ := f
  obtain ⟨type', name', parameters', body'⟩ := f'
  simp only [spelling, List.cons_append, List.append_assoc, List.nil_append, List.cons.injEq,
    Word.name.injEq, true_and] at same
  obtain ⟨rfl, rfl, same⟩ := same
  obtain ⟨rfl, bodies⟩ := parametersSpelling_append_inj same
  have apart (s : Statement) (rest : List Word) :
      ¬ (s.spelling ++ rest).head? = some (.mark '\x7d') := by
    cases s <;> simp [Statement.spelling]
  obtain ⟨rfl, later⟩ := flatMap_append_inj (fun ws => ws.head? = some (.mark '\x7d')) apart
    Statement.spelling_append_inj grammatical grammatical' rfl rfl
    (List.tail_eq_of_cons_eq bodies)
  exact ⟨rfl, List.tail_eq_of_cons_eq later⟩

/-- **A text spells one program at most.** -/
theorem Program.Spells.eq {p p' : Program} {text : String} (h : p.Spells text)
    (h' : p'.Spells text) : p = p' := by
  refine (flatMap_append_inj (· = []) (fun f _ => List.cons_ne_nil _ _)
    Function.spelling_append_inj h.1 h'.1 rfl rfl ?_).1
  rw [List.append_nil, List.append_nil]
  exact h.2.trans h'.2.symm

end ScreenEffects.Glsl

import TurtleWow.Migrations.Splitter
import Mathlib.Data.List.TakeWhile
import Mathlib.Tactic.SplitIfs

namespace TurtleWow.Migrations

open List

-- The lexical rules of SQL, to compare the splitter with.

-- A statement is the list of its words: what stands between blanks that are
-- outside strings. A draft has one more word under way.
structure Draft where
  words : List Text
  word : Text
  deriving DecidableEq, Repr

namespace Draft

def empty : Draft := ⟨[], []⟩

def add (d : Draft) (c : Char) : Draft := { d with word := d.word ++ [c] }

def gap (d : Draft) : Draft := if d.word = [] then d else ⟨d.words ++ [d.word], []⟩

end Draft

-- `opening` is at the star that opens a block comment, `closing` at the slash
-- that closes one.
inductive Scope
  | code | single | double | line | opening | block | closing
  deriving DecidableEq, Repr

def Scope.next (scope : Scope) (c : Char) (next : Option Char) : Scope :=
  match scope with
  | .code =>
    if c = '-' ∧ next = some '-' then .line
    else if c = '/' ∧ next = some '*' then .opening
    else if c = '\'' then .single
    else if c = '"' then .double
    else .code
  | .single => if c = '\'' then .code else .single
  | .double => if c = '"' then .code else .double
  | .line => if c = '\n' then .code else .line
  | .opening => .block
  | .block => if c = '*' ∧ next = some '/' then .closing else .block
  | .closing => .code

structure Lexer where
  statements : List (List Text)
  draft : Draft
  scope : Scope
  deriving DecidableEq, Repr

namespace Lexer

def start : Lexer := ⟨[], .empty, .code⟩

-- A comment stands for a blank.
def step (l : Lexer) (c : Char) (next : Option Char) : Lexer :=
  let scope := l.scope.next c next
  match l.scope with
  | .code =>
    if scope = .line ∨ scope = .opening then { l with draft := l.draft.gap, scope := scope }
    else if c = ';' then
      { statements := l.statements ++ [l.draft.gap.words], draft := .empty, scope := scope }
    else if isBlank c then { l with draft := l.draft.gap, scope := scope }
    else { l with draft := l.draft.add c, scope := scope }
  | .single | .double => { l with draft := l.draft.add c, scope := scope }
  | .line | .opening | .block | .closing => { l with scope := scope }

def scan (l : Lexer) : Text → Lexer
  | [] => l
  | c :: rest => (l.step c rest.head?).scan rest

def allStatements (l : Lexer) : List (List Text) :=
  if l.draft.gap.words = [] then l.statements else l.statements ++ [l.draft.gap.words]

end Lexer

def lex (sql : Text) : Lexer := Lexer.start.scan sql

def statements (sql : Text) : List (List Text) := (lex sql).allStatements

def Closed (sql : Text) : Prop := (lex sql).scope = .code ∨ (lex sql).scope = .line

def Unescaped (sql : Text) : Prop := ∀ c ∈ sql, c ≠ '\\' ∧ c ≠ '\x60' ∧ c ≠ '#'

-- The words of one query, which has no comments
structure Reader where
  draft : Draft
  scope : StringStatus
  deriving DecidableEq, Repr

def Reader.start : Reader := ⟨.empty, .none⟩

def Reader.read (r : Reader) (c : Char) : Reader :=
  match r.scope with
  | .none =>
    if c = ';' ∨ isBlank c then { r with draft := r.draft.gap }
    else
      { draft := r.draft.add c,
        scope := if c = '\'' then .singleQuotes else if c = '"' then .doubleQuotes else .none }
  | .singleQuotes => { draft := r.draft.add c, scope := if c = '\'' then .none else .singleQuotes }
  | .doubleQuotes => { draft := r.draft.add c, scope := if c = '"' then .none else .doubleQuotes }

def readAll (query : Text) : Reader := query.foldl Reader.read .start

def wordsOf (query : Text) : List Text := (readAll query).draft.gap.words

-- How the text before stands to what follows: blanks separate them, or a word
-- goes on, or a comment or a carriage return was left out after a word.
inductive Joint
  | apart | inWord | glued
  deriving DecidableEq, Repr

def Joint.leaveOut : Joint → Joint
  | .inWord => .glued
  | joint => joint

-- Where the splitter and the rules part: a zero byte, the end of a line within
-- a string, the opening of a block comment within a line comment, an opening
-- whose star also closes, a carriage return that does not end its line in a
-- line comment, and a character that is joined to the word before a left out
-- comment or carriage return.
def endsLine (rest : Text) : Bool :=
  match (rest.dropWhile fun c => c = '\r').head? with
  | none => true
  | some c => c = '\n'

def Clear : Scope → Joint → Text → Prop
  | _, _, [] => True
  | scope, joint, c :: rest =>
    let next := scope.next c rest.head?
    c ≠ '\x00' ∧
      match scope with
      | .code =>
        if next = .line ∨ next = .opening ∨ c = '\r' then Clear next joint.leaveOut rest
        else if c = ';' ∨ isBlank c then Clear next .apart rest
        else joint ≠ .glued ∧ Clear next .inWord rest
      | .single | .double => c ≠ '\r' ∧ c ≠ '\n' ∧ Clear next .inWord rest
      | .line =>
        ¬(c = '/' ∧ rest.head? = some '*') ∧ (c = '\r' → endsLine rest) ∧
          Clear next (if c = '\n' then .apart else joint) rest
      | .opening => rest.head? ≠ some '/' ∧ Clear next joint rest
      | .block | .closing => Clear next (if c = '\n' then .apart else joint) rest

section Draft

variable {d : Draft} {c : Char}

theorem Draft.gap_word : d.gap.word = [] := by
  unfold Draft.gap
  split
  · assumption
  · rfl

theorem Draft.gap_gap : d.gap.gap = d.gap := by
  rw [Draft.gap, if_pos Draft.gap_word]

theorem Draft.gap_of_word (h : d.word = []) : d.gap = d := if_pos h

theorem Draft.gap_eq_empty : d.gap = .empty ↔ d = .empty := by
  unfold Draft.gap
  split
  · exact Iff.rfl
  · rename_i hword
    refine iff_of_false (fun h => ?_) fun h => hword (by rw [h]; rfl)
    simpa [Draft.empty] using congrArg Draft.words h

theorem Draft.add_ne_empty : d.add c ≠ .empty := by
  intro h
  simpa [Draft.add, Draft.empty] using congrArg Draft.word h

theorem Draft.words_gap_eq_nil : d.gap.words = [] ↔ d.words = [] ∧ d.word = [] := by
  unfold Draft.gap
  split
  · rename_i hword
    exact (and_iff_left hword).symm
  · rename_i hword
    simp [hword]

end Draft

theorem readAll_concat (query : Text) (c : Char) : readAll (query ++ [c]) = (readAll query).read c :=
  foldl_concat ..

theorem isBlankQuery_concat (query : Text) (c : Char) :
    Splitter.isBlankQuery (query ++ [c]) = (Splitter.isBlankQuery query && isBlank c) := by
  simp [Splitter.isBlankQuery]

-- The scopes of the splitter that stand for one of the rules. In a comment no
-- word is under way.
def Agree (s : Splitter) (joint : Joint) (prev : Option Char) (rest : Text) : Scope → Prop
  | .code => s.stringScope = .none ∧ s.commentScope = .none
  | .single => s.stringScope = .singleQuotes ∧ s.commentScope = .none
  | .double => s.stringScope = .doubleQuotes ∧ s.commentScope = .none
  | .line => (s.stringScope = .none ∧ joint ≠ .inWord) ∧
      (s.commentScope = .singleline ∨ s.commentScope = .none ∧ endsLine rest)
  | .opening => (s.stringScope = .none ∧ joint ≠ .inWord) ∧ s.commentScope = .multiline ∧ rest.head? = some '*'
  | .block => (s.stringScope = .none ∧ joint ≠ .inWord) ∧ s.commentScope = .multiline ∧
      (prev = some '*' → rest.head? ≠ some '/')
  | .closing => (s.stringScope = .none ∧ joint ≠ .inWord) ∧ s.commentScope = .multiline ∧ prev = some '*' ∧
      rest.head? = some '/'

theorem Joint.leaveOut_ne (joint : Joint) : joint.leaveOut ≠ .inWord := by
  cases joint <;> decide

-- What has been read so far is the same on both sides, up to a word that only
-- the rules have ended.
structure SameText (s : Splitter) (l : Lexer) (joint : Joint) : Prop where
  statements : s.queries.map wordsOf = l.statements
  draft : l.draft = if joint = .glued then (readAll s.query).draft.gap else (readAll s.query).draft
  apart : joint = .apart → (readAll s.query).draft.word = []
  scope : (readAll s.query).scope = s.stringScope
  blank : Splitter.isBlankQuery s.query ↔ (readAll s.query).draft = .empty
  quoted : s.stringScope ≠ .none → (readAll s.query).draft ≠ .empty ∧ joint = .inWord

section SameText

variable {s : Splitter} {l : Lexer} {joint : Joint} {c : Char}

theorem SameText.gap_draft (h : SameText s l joint) : l.draft.gap = (readAll s.query).draft.gap := by
  rw [h.draft]
  split
  · exact Draft.gap_gap
  · rfl

theorem sameText_start : SameText .start .start .apart :=
  ⟨rfl, rfl, fun _ => rfl, rfl, iff_of_true rfl rfl, fun h => absurd rfl h⟩

section

variable (h : SameText s l joint)

include h

theorem SameText.leaveOut (hscope : s.stringScope = .none) (scope : Scope) (comment : CommentScope) :
    SameText { s with commentScope := comment } { l with draft := l.draft.gap, scope := scope } joint.leaveOut := by
  refine ⟨h.statements, ?_, fun hjoint => ?_, h.scope, h.blank, fun hquoted => absurd hscope hquoted⟩
  · change l.draft.gap = _
    rw [h.gap_draft]
    cases joint with
    | apart => rw [if_neg (by decide), Draft.gap_of_word (h.apart rfl)]
    | inWord => rfl
    | glued => rfl
  · cases joint with
    | apart => exact h.apart rfl
    | inWord => cases hjoint
    | glued => cases hjoint

theorem SameText.gap (hscope : s.stringScope = .none) (hc : isBlank c) (scope : Scope) (comment : CommentScope) :
    SameText { s with query := s.query ++ [c], commentScope := comment }
      { l with draft := l.draft.gap, scope := scope } .apart := by
  have hread : readAll (s.query ++ [c]) = ⟨(readAll s.query).draft.gap, .none⟩ := by
    rw [readAll_concat, Reader.read, h.scope, hscope]
    simp [hc]
  refine ⟨h.statements, ?_, fun _ => ?_, ?_, ?_, fun hquoted => absurd hscope hquoted⟩
  · change l.draft.gap = (readAll (s.query ++ [c])).draft
    rw [hread, h.gap_draft]
  · change (readAll (s.query ++ [c])).draft.word = []
    rw [hread]
    exact Draft.gap_word
  · change (readAll (s.query ++ [c])).scope = s.stringScope
    rw [hread, hscope]
  · change Splitter.isBlankQuery (s.query ++ [c]) = true ↔ (readAll (s.query ++ [c])).draft = .empty
    rw [hread, isBlankQuery_concat, hc, Bool.and_true, h.blank]
    exact Draft.gap_eq_empty.symm

theorem SameText.stop (hscope : s.stringScope = .none) (scope : Scope) :
    SameText { s with queries := s.queries ++ [s.query ++ [';']], query := [] }
      { statements := l.statements ++ [l.draft.gap.words], draft := .empty, scope := scope } .apart := by
  have hread : readAll (s.query ++ [';']) = ⟨(readAll s.query).draft.gap, .none⟩ := by
    rw [readAll_concat, Reader.read, h.scope, hscope]
    simp
  refine ⟨?_, rfl, fun _ => rfl, hscope.symm, iff_of_true rfl rfl, fun hquoted => absurd hscope hquoted⟩
  rw [map_append, h.statements, map_singleton, wordsOf, hread, Draft.gap_gap, h.gap_draft]

theorem SameText.add (hjoint : joint ≠ .glued) {scope : StringStatus}
    (hread : (readAll s.query).read c = ⟨(readAll s.query).draft.add c, scope⟩)
    (hc : isBlank c = false ∨ s.stringScope ≠ .none) (lexical : Scope) :
    SameText { s with query := s.query ++ [c], stringScope := scope }
      { l with draft := l.draft.add c, scope := lexical } .inWord := by
  have hall : readAll (s.query ++ [c]) = ⟨(readAll s.query).draft.add c, scope⟩ := by rw [readAll_concat, hread]
  refine ⟨h.statements, ?_, fun hapart => ?_, ?_, iff_of_false ?_ ?_, fun _ => ⟨?_, rfl⟩⟩
  · change l.draft.add c = (readAll (s.query ++ [c])).draft
    rw [hall, h.draft, if_neg hjoint]
  · cases hapart
  · change (readAll (s.query ++ [c])).scope = scope
    rw [hall]
  · change ¬Splitter.isBlankQuery (s.query ++ [c]) = true
    rw [isBlankQuery_concat]
    rcases hc with hc | hquoted
    · simp [hc]
    · have hblank := mt h.blank.mp (h.quoted hquoted).1
      simp [hblank]
  all_goals
    change (readAll (s.query ++ [c])).draft ≠ .empty
    rw [hall]
    exact Draft.add_ne_empty

end

end SameText

-- One character, whatever it is: the two sides still agree, and the rest is
-- still clear.
def Follows (s : Splitter) (l : Lexer) (prev : Option Char) (c : Char) (rest : Text) : Prop :=
  ∃ joint, SameText (s.step prev c rest.head?) (l.step c rest.head?) joint ∧
    Agree (s.step prev c rest.head?) joint (some c) rest (l.step c rest.head?).scope ∧
    Clear (l.step c rest.head?).scope joint rest

section Step

variable {s : Splitter} {l : Lexer} {joint : Joint} {prev : Option Char} {c : Char} {rest : Text}

theorem follows_open (h : SameText s l joint) (hl : l.scope = .code) (hagree : Agree s joint prev (c :: rest) .code)
    (hclear : Clear .code joint (c :: rest))
    (hopen : Scope.next .code c rest.head? = .line ∨ Scope.next .code c rest.head? = .opening) :
    Follows s l prev c rest := by
  obtain ⟨hscope, hcomment⟩ := hagree
  have hstep : l.step c rest.head? = { l with draft := l.draft.gap, scope := Scope.next .code c rest.head? } := by
    simp only [Lexer.step, hl, if_pos hopen]
  have hrest : Clear (Scope.next .code c rest.head?) joint.leaveOut rest := by
    have hrest := hclear.2
    simp only at hrest
    rwa [if_pos (hopen.elim .inl fun h => .inr (.inl h))] at hrest
  unfold Follows
  rw [hstep]
  simp only [Scope.next] at hopen hrest ⊢
  by_cases hline : c = '-' ∧ rest.head? = some '-'
  · rw [if_pos hline] at hrest ⊢
    obtain ⟨rfl, hhead⟩ := hline
    have hs : s.step prev '-' rest.head? = { s with commentScope := .singleline } := by
      simp [Splitter.step, hscope, hcomment, hhead]
    rw [hs]
    exact ⟨_, h.leaveOut hscope _ _, ⟨⟨hscope, joint.leaveOut_ne⟩, .inl rfl⟩, hrest⟩
  rw [if_neg hline] at hopen hrest ⊢
  by_cases hblock : c = '/' ∧ rest.head? = some '*'
  · rw [if_pos hblock] at hrest ⊢
    obtain ⟨rfl, hhead⟩ := hblock
    have hs : s.step prev '/' rest.head? = { s with commentScope := .multiline } := by
      simp [Splitter.step, hscope, hcomment, hhead]
    rw [hs]
    exact ⟨_, h.leaveOut hscope _ _, ⟨⟨hscope, joint.leaveOut_ne⟩, rfl, hhead⟩, hrest⟩
  · rw [if_neg hblock] at hopen
    split_ifs at hopen <;> simp at hopen

theorem splitter_step_of (hcomment : s.commentScope = .none) (hend : ¬(c = '\r' ∨ c = '\n'))
    (hopen : s.stringScope = .none → Scope.next .code c rest.head? ≠ .line ∧ Scope.next .code c rest.head? ≠ .opening) :
    s.step prev c rest.head? = ((s.quote prev c).append c).finish c := by
  have hline : ¬(c = '-' ∧ s.stringScope = .none ∧ rest.head? = some '-') := by
    rintro ⟨hc, hscope, hhead⟩
    exact (hopen hscope).1 (by rw [Scope.next, if_pos ⟨hc, hhead⟩])
  have hblock : ¬(c = '/' ∧ s.stringScope = .none ∧ rest.head? = some '*') := by
    rintro ⟨rfl, hscope, hhead⟩
    exact (hopen hscope).2 (by simp [Scope.next, hhead])
  rw [Splitter.step, if_neg hend, if_neg (by simp [hcomment]), if_neg hblock, if_neg (by simp [hcomment]),
    if_neg hline]

theorem splitter_step_end (hcomment : s.commentScope = .none) :
    s.step prev '\n' rest.head? = { s with query := s.query ++ [' '] } ∧ s.step prev '\r' rest.head? = s := by
  constructor
  · simp [Splitter.step, Splitter.lineEnd, Splitter.append, hcomment]
  · simp [Splitter.step, Splitter.lineEnd, hcomment]

section

variable (h : SameText s l joint)

include h

theorem follows_code (hl : l.scope = .code) (hagree : Agree s joint prev (c :: rest) .code)
    (hclear : Clear .code joint (c :: rest)) : Follows s l prev c rest := by
  by_cases hopen : Scope.next .code c rest.head? = .line ∨ Scope.next .code c rest.head? = .opening
  · exact follows_open h hl hagree hclear hopen
  obtain ⟨hscope, hcomment⟩ := hagree
  have hrest := hclear.2
  simp only at hrest
  have hstep : l.step c rest.head? =
      if c = ';' then
        { statements := l.statements ++ [l.draft.gap.words], draft := .empty, scope := Scope.next .code c rest.head? }
      else if isBlank c then { l with draft := l.draft.gap, scope := Scope.next .code c rest.head? }
      else { l with draft := l.draft.add c, scope := Scope.next .code c rest.head? } := by
    simp only [Lexer.step, hl, if_neg hopen]
  unfold Follows
  by_cases hcr : c = '\r'
  · subst hcr
    rw [if_pos (.inr (.inr rfl))] at hrest
    rw [(splitter_step_end hcomment).2, hstep, if_neg (by decide), if_pos (by decide)]
    have hnext : Scope.next .code '\r' rest.head? = .code := by simp [Scope.next]
    rw [hnext] at hrest ⊢
    refine ⟨_, ?_, ⟨hscope, hcomment⟩, hrest⟩
    have hout := h.leaveOut hscope .code .none
    rwa [← hcomment] at hout
  rw [if_neg (by tauto)] at hrest
  by_cases hlf : c = '\n'
  · subst hlf
    rw [if_pos (.inr (by decide))] at hrest
    rw [(splitter_step_end hcomment).1, hstep, if_neg (by decide), if_pos (by decide)]
    have hnext : Scope.next .code '\n' rest.head? = .code := by simp [Scope.next]
    rw [hnext] at hrest ⊢
    exact ⟨_, h.gap hscope (by decide) .code s.commentScope, ⟨hscope, hcomment⟩, hrest⟩
  rw [splitter_step_of hcomment (by tauto) fun _ => not_or.mp hopen, hstep]
  by_cases hstop : c = ';'
  · subst hstop
    rw [if_pos (.inl rfl)] at hrest
    have hnext : Scope.next .code ';' rest.head? = .code := by simp [Scope.next]
    rw [if_pos rfl]
    rw [hnext] at hrest ⊢
    have hs : ((s.quote prev ';').append ';').finish ';' =
        { s with queries := s.queries ++ [s.query ++ [';']], query := [] } := by
      simp [Splitter.quote, Splitter.append, Splitter.finish, hscope]
    rw [hs]
    exact ⟨_, h.stop hscope .code, ⟨hscope, hcomment⟩, hrest⟩
  rw [if_neg hstop]
  have hfinish : ∀ t : Splitter, t.finish c = t := fun t => by rw [Splitter.finish, if_neg (by tauto)]
  rw [hfinish]
  by_cases hblank : isBlank c
  · rw [if_pos (.inr hblank)] at hrest
    rw [if_pos hblank]
    have hquotes : c ≠ '\'' ∧ c ≠ '"' := by
      constructor <;> (rintro rfl; exact absurd hblank (by decide))
    have hnext : Scope.next .code c rest.head? = .code := by
      simp only [Scope.next, not_or, if_neg hquotes.1, if_neg hquotes.2] at hopen ⊢
      split_ifs at hopen ⊢ <;> simp_all
    have hs : (s.quote prev c).append c = { s with query := s.query ++ [c] } := by
      simp [Splitter.quote, Splitter.append, hquotes.1, hquotes.2]
    rw [hnext] at hrest ⊢
    rw [hs]
    exact ⟨_, h.gap hscope hblank .code s.commentScope, ⟨hscope, hcomment⟩, hrest⟩
  · rw [if_neg (by tauto)] at hrest
    rw [if_neg hblank]
    obtain ⟨hglued, hrest⟩ := hrest
    have hread : ∀ scope, (if c = '\'' then StringStatus.singleQuotes else if c = '"' then .doubleQuotes else .none) = scope →
        (readAll s.query).read c = ⟨(readAll s.query).draft.add c, scope⟩ := by
      rintro scope rfl
      rw [Reader.read, h.scope, hscope]
      simp only
      rw [if_neg (by tauto)]
    have hs : ∀ scope, (if c = '\'' then StringStatus.singleQuotes else if c = '"' then .doubleQuotes else .none) = scope →
        (s.quote prev c).append c = { s with query := s.query ++ [c], stringScope := scope } := by
      rintro scope rfl
      by_cases hsingle : c = '\''
      · simp [Splitter.quote, Splitter.append, Splitter.afterQuote, hsingle, hscope]
      · simp [Splitter.quote, Splitter.append, Splitter.afterQuote, hsingle, hscope]
    have hblank' : isBlank c = false := by simpa using hblank
    by_cases hsingle : c = '\''
    · subst hsingle
      have hnext : Scope.next .code '\'' rest.head? = .single := by simp [Scope.next]
      rw [hnext] at hrest ⊢
      rw [hs .singleQuotes rfl]
      exact ⟨_, h.add hglued (hread _ rfl) (.inl hblank') .single, ⟨rfl, hcomment⟩, hrest⟩
    by_cases hdouble : c = '"'
    · subst hdouble
      have hnext : Scope.next .code '"' rest.head? = .double := by simp [Scope.next]
      rw [hnext] at hrest ⊢
      rw [hs .doubleQuotes rfl]
      exact ⟨_, h.add hglued (hread _ rfl) (.inl hblank') .double, ⟨rfl, hcomment⟩, hrest⟩
    have hnone : (if c = '\'' then StringStatus.singleQuotes else if c = '"' then .doubleQuotes else .none) = .none := by
      rw [if_neg hsingle, if_neg hdouble]
    have hnext : Scope.next .code c rest.head? = .code := by
      simp only [Scope.next, if_neg hsingle, if_neg hdouble] at hopen ⊢
      split_ifs at hopen ⊢ <;> simp_all
    rw [hnext] at hrest ⊢
    rw [hs .none hnone]
    exact ⟨_, h.add hglued (hread _ hnone) (.inl hblank') .code, ⟨rfl, hcomment⟩, hrest⟩

theorem follows_string {own : StringStatus} {mark : Char}
    (hown : own = .singleQuotes ∧ mark = '\'' ∧ l.scope = .single ∨ own = .doubleQuotes ∧ mark = '"' ∧ l.scope = .double)
    (hscope : s.stringScope = own) (hcomment : s.commentScope = .none) (hclear : Clear l.scope joint (c :: rest))
    (hprev : prev ≠ some '\\') : Follows s l prev c rest := by
  have hne : s.stringScope ≠ .none := by
    rcases hown with ⟨rfl, -, -⟩ | ⟨rfl, -, -⟩ <;> rw [hscope] <;> decide
  have hrest : (c ≠ '\r' ∧ c ≠ '\n') ∧ Clear (l.scope.next c rest.head?) .inWord rest := by
    rcases hown with ⟨-, -, hl⟩ | ⟨-, -, hl⟩ <;> rw [hl] at hclear ⊢ <;> exact and_assoc.mpr hclear.2
  have hnext : l.scope.next c rest.head? = if c = mark then .code else l.scope := by
    rcases hown with ⟨-, rfl, hl⟩ | ⟨-, rfl, hl⟩ <;> rw [hl] <;> rfl
  have hstep : l.step c rest.head? = { l with draft := l.draft.add c, scope := if c = mark then .code else l.scope } := by
    rw [← hnext]
    rcases hown with ⟨-, -, hl⟩ | ⟨-, -, hl⟩ <;> simp only [Lexer.step, hl]
  have hread : (readAll s.query).read c = ⟨(readAll s.query).draft.add c, if c = mark then .none else own⟩ := by
    rcases hown with ⟨rfl, rfl, -⟩ | ⟨rfl, rfl, -⟩ <;> rw [Reader.read, h.scope, hscope]
  have hquote : (s.quote prev c).append c =
      { s with query := s.query ++ [c], stringScope := if c = mark then .none else own } := by
    rcases hown with ⟨rfl, rfl, -⟩ | ⟨rfl, rfl, -⟩
    · by_cases hmark : c = '\''
      · simp [Splitter.quote, Splitter.append, Splitter.afterQuote, hscope, hprev, hmark]
      · simp [Splitter.quote, Splitter.append, Splitter.afterQuote, hscope, hmark]
    · by_cases hmark : c = '"'
      · simp [Splitter.quote, Splitter.append, Splitter.afterQuote, hscope, hprev, hmark]
      · simp [Splitter.quote, Splitter.append, Splitter.afterQuote, hscope, hmark]
  have hfinish : (({ s with query := s.query ++ [c], stringScope := if c = mark then .none else own } : Splitter)).finish c =
      { s with query := s.query ++ [c], stringScope := if c = mark then .none else own } := by
    refine if_neg ?_
    rintro ⟨rfl, hnone⟩
    rcases hown with ⟨rfl, rfl, -⟩ | ⟨rfl, rfl, -⟩ <;> exact absurd hnone (by simp)
  unfold Follows
  rw [splitter_step_of hcomment (by tauto) (fun hnone => absurd hnone hne), hquote, hfinish, hstep]
  rw [hnext] at hrest
  refine ⟨_, h.add ?_ hread (.inr hne) _, ?_, hrest.2⟩
  · rw [(h.quoted hne).2]
    decide
  · change Agree _ _ _ _ (if c = mark then .code else l.scope)
    split
    · exact ⟨rfl, hcomment⟩
    · rcases hown with ⟨rfl, -, hl⟩ | ⟨rfl, -, hl⟩ <;> rw [hl] <;> exact ⟨rfl, hcomment⟩

theorem SameText.lineFeed (hscope : s.stringScope = .none) (hjoint : joint ≠ .inWord)
    (scope : Scope) (comment : CommentScope) :
    SameText { s with query := s.query ++ [' '], commentScope := comment } { l with scope := scope } .apart := by
  have hdraft : l.draft.gap = l.draft := by
    rw [h.gap_draft, h.draft]
    cases joint with
    | apart => rw [if_neg (by decide), Draft.gap_of_word (h.apart rfl)]
    | inWord => exact absurd rfl hjoint
    | glued => rfl
  have hgap := h.gap hscope (c := ' ') (by decide) scope comment
  rwa [hdraft] at hgap

theorem SameText.skip (hscope : s.stringScope = .none) (scope : Scope)
    (comment : CommentScope) : SameText { s with commentScope := comment } { l with scope := scope } joint :=
  ⟨h.statements, h.draft, h.apart, h.scope, h.blank, fun hquoted => absurd hscope hquoted⟩

theorem follows_line (hl : l.scope = .line) (hagree : Agree s joint prev (c :: rest) .line)
    (hclear : Clear .line joint (c :: rest)) : Follows s l prev c rest := by
  obtain ⟨⟨hscope, hjoint⟩, hcomment⟩ := hagree
  obtain ⟨-, hopen, hreturn, hrest⟩ := hclear
  have hstep : l.step c rest.head? = { l with scope := Scope.next .line c rest.head? } := by simp only [Lexer.step, hl]
  unfold Follows
  rw [hstep]
  by_cases hlf : c = '\n'
  · subst hlf
    rw [if_pos rfl] at hrest
    have hs : s.step prev '\n' rest.head? = { s with query := s.query ++ [' '], commentScope := .none } := by
      rcases hcomment with hcomment | ⟨hcomment, -⟩ <;>
        simp [Splitter.step, Splitter.lineEnd, Splitter.append, hcomment]
    rw [hs]
    exact ⟨_, h.lineFeed hscope hjoint _ _, ⟨hscope, rfl⟩, hrest⟩
  have hnext : Scope.next .line c rest.head? = .line := if_neg hlf
  rw [if_neg hlf, hnext] at hrest
  rw [hnext]
  by_cases hcr : c = '\r'
  · subst hcr
    have hs : s.step prev '\r' rest.head? = { s with commentScope := .none } := by
      rcases hcomment with hcomment | ⟨hcomment, -⟩
      · simp [Splitter.step, Splitter.lineEnd, hcomment]
      · rw [(splitter_step_end hcomment).2, ← hcomment]
    rw [hs]
    exact ⟨_, h.skip hscope _ _, ⟨⟨hscope, hjoint⟩, .inr ⟨rfl, hreturn rfl⟩⟩, hrest⟩
  -- the splitter is still in the comment: it has left it only before a line end
  have hcomment : s.commentScope = .singleline := by
    refine hcomment.resolve_right fun ⟨_, hend⟩ => hlf ?_
    simpa [endsLine, dropWhile_cons, hcr] using hend
  have hs : s.step prev c rest.head? = { s with commentScope := .singleline } := by
    rw [Splitter.step, if_neg (by tauto), if_neg (by simp [hcomment]), if_neg (by tauto), if_pos (by simp [hcomment]),
      ← hcomment]
  rw [hs]
  exact ⟨_, h.skip hscope _ _, ⟨⟨hscope, hjoint⟩, .inl rfl⟩, hrest⟩

end

theorem splitter_step_block (hcomment : s.commentScope = .multiline) (hlf : c ≠ '\n')
    (hslash : c = '/' → prev ≠ some '*') : s.step prev c rest.head? = { s with commentScope := .multiline } := by
  have hs : ({ s with commentScope := .multiline } : Splitter) = s := by rw [← hcomment]
  rw [hs, Splitter.step]
  by_cases hend : c = '\r' ∨ c = '\n'
  · simp [Splitter.lineEnd, hend.resolve_right hlf, hcomment]
  rw [if_neg hend, if_neg fun hclose => hslash hclose.1 hclose.2.2]
  split
  · exact hs
  · rw [if_pos (by simp [hcomment])]

section

variable (h : SameText s l joint)

include h

theorem follows_opening (hl : l.scope = .opening)
    (hagree : Agree s joint prev (c :: rest) .opening) (hclear : Clear .opening joint (c :: rest)) :
    Follows s l prev c rest := by
  obtain ⟨⟨hscope, hjoint⟩, hcomment, hhead⟩ := hagree
  have hstar : c = '*' := Option.some.inj hhead
  subst hstar
  have hstep : l.step '*' rest.head? = { l with scope := .block } := by simp only [Lexer.step, hl, Scope.next]
  unfold Follows
  rw [hstep, splitter_step_block hcomment (by decide) (by simp)]
  exact ⟨_, h.skip hscope _ _, ⟨⟨hscope, hjoint⟩, rfl, fun _ => hclear.2.1⟩, hclear.2.2⟩

theorem follows_closing (hl : l.scope = .closing)
    (hagree : Agree s joint prev (c :: rest) .closing) (hclear : Clear .closing joint (c :: rest)) :
    Follows s l prev c rest := by
  obtain ⟨⟨hscope, hjoint⟩, hcomment, hprev, hhead⟩ := hagree
  have hslash : c = '/' := Option.some.inj hhead
  subst hslash
  have hstep : l.step '/' rest.head? = { l with scope := .code } := by simp only [Lexer.step, hl, Scope.next]
  have hs : s.step prev '/' rest.head? = { s with commentScope := .none } := by
    simp [Splitter.step, hcomment, hprev]
  unfold Follows
  rw [hstep, hs]
  exact ⟨_, h.skip hscope _ _, ⟨hscope, rfl⟩, hclear.2⟩

theorem follows_block (hl : l.scope = .block)
    (hagree : Agree s joint prev (c :: rest) .block) (hclear : Clear .block joint (c :: rest)) :
    Follows s l prev c rest := by
  obtain ⟨⟨hscope, hjoint⟩, hcomment, hstar⟩ := hagree
  have hrest := hclear.2
  simp only at hrest
  have hstep : l.step c rest.head? = { l with scope := Scope.next .block c rest.head? } := by simp only [Lexer.step, hl]
  unfold Follows
  rw [hstep]
  by_cases hlf : c = '\n'
  · subst hlf
    have hs : s.step prev '\n' rest.head? = { s with query := s.query ++ [' '], commentScope := .multiline } := by
      simp [Splitter.step, Splitter.lineEnd, Splitter.append, hcomment]
    have hnext : Scope.next .block '\n' rest.head? = .block := by simp [Scope.next]
    rw [if_pos rfl, hnext] at hrest
    rw [hs, hnext]
    exact ⟨_, h.lineFeed hscope hjoint _ _, ⟨⟨hscope, by decide⟩, rfl, by simp⟩, hrest⟩
  have hslash : c = '/' → prev ≠ some '*' := by
    rintro rfl hprev
    exact hstar hprev rfl
  rw [if_neg hlf] at hrest
  rw [splitter_step_block hcomment hlf hslash]
  refine ⟨_, h.skip hscope _ _, ?_, hrest⟩
  by_cases hends : c = '*' ∧ rest.head? = some '/'
  · rw [Scope.next, if_pos hends]
    exact ⟨⟨hscope, hjoint⟩, rfl, congrArg some hends.1, hends.2⟩
  · rw [Scope.next, if_neg hends]
    exact ⟨⟨hscope, hjoint⟩, rfl, fun hc hhead => hends ⟨Option.some.inj hc, hhead⟩⟩

theorem follows (hagree : Agree s joint prev (c :: rest) l.scope)
    (hclear : Clear l.scope joint (c :: rest)) (hprev : prev ≠ some '\\') : Follows s l prev c rest := by
  cases hl : l.scope with
  | code => exact follows_code h hl (hl ▸ hagree) (hl ▸ hclear)
  | single =>
    rw [hl] at hagree
    exact follows_string h (.inl ⟨rfl, rfl, hl⟩) hagree.1 hagree.2 hclear hprev
  | double =>
    rw [hl] at hagree
    exact follows_string h (.inr ⟨rfl, rfl, hl⟩) hagree.1 hagree.2 hclear hprev
  | line => exact follows_line h hl (hl ▸ hagree) (hl ▸ hclear)
  | opening => exact follows_opening h hl (hl ▸ hagree) (hl ▸ hclear)
  | block => exact follows_block h hl (hl ▸ hagree) (hl ▸ hclear)
  | closing => exact follows_closing h hl (hl ▸ hagree) (hl ▸ hclear)

theorem sameText_scan {sql : Text} (hagree : Agree s joint prev sql l.scope)
    (hclear : Clear l.scope joint sql) (hplain : ∀ c ∈ sql, c ≠ '\\') (hprev : prev ≠ some '\\') :
    ∃ joint last, SameText (s.scan prev sql) (l.scan sql) joint ∧
      Agree (s.scan prev sql) joint last [] (l.scan sql).scope := by
  induction sql generalizing s l joint prev with
  | nil => exact ⟨joint, prev, h, hagree⟩
  | cons c rest ih =>
    obtain ⟨hc, hrest⟩ := forall_mem_cons.mp hplain
    obtain ⟨next, htext, hagree, hclear⟩ := follows h hagree hclear hprev
    exact ih htext hagree hclear hrest fun hslash => hc (Option.some.inj hslash)

end

end Step

def ZeroFree (s : Splitter) : Prop := ∀ query ∈ s.query :: s.queries, '\x00' ∉ query

section

variable {s : Splitter}

theorem ZeroFree.append {c : Char} (h : ZeroFree s) (hc : c ≠ '\x00') : ZeroFree (s.append c) := by
  obtain ⟨hquery, hqueries⟩ := forall_mem_cons.mp h
  refine forall_mem_cons.mpr ⟨fun hmem => ?_, hqueries⟩
  rcases mem_append.mp hmem with hmem | hmem
  · exact hquery hmem
  · exact hc (mem_singleton.mp hmem).symm

theorem ZeroFree.finish {c : Char} (h : ZeroFree s) : ZeroFree (s.finish c) := by
  obtain ⟨hquery, hqueries⟩ := forall_mem_cons.mp h
  unfold Splitter.finish
  split
  · refine forall_mem_cons.mpr ⟨not_mem_nil, fun query hmem => ?_⟩
    rcases mem_append.mp hmem with hmem | hmem
    · exact hqueries query hmem
    · exact mem_singleton.mp hmem ▸ hquery
  · exact h

theorem ZeroFree.lineEnd {c : Char} (h : ZeroFree s) : ZeroFree (s.lineEnd c) := by
  have hspace : ZeroFree (s.append ' ') := h.append (by decide)
  unfold Splitter.lineEnd
  dsimp only
  split_ifs <;> first | exact hspace | exact h

theorem ZeroFree.step {prev next : Option Char} {c : Char} (h : ZeroFree s) (hc : c ≠ '\x00') :
    ZeroFree (s.step prev c next) := by
  unfold Splitter.step
  split_ifs
  · exact h.lineEnd
  · exact h
  · exact h
  · exact h
  · exact h
  · have hquote : ZeroFree (s.quote prev c) := h
    exact (hquote.append hc).finish

theorem ZeroFree.scan {prev : Option Char} {sql : Text} (h : ZeroFree s) (hsql : '\x00' ∉ sql) :
    ZeroFree (s.scan prev sql) := by
  induction sql generalizing s prev with
  | nil => exact h
  | cons c rest ih =>
    obtain ⟨hc, hrest⟩ := not_or.mp (mt mem_cons.mpr hsql)
    exact ih (h.step (Ne.symm hc)) hrest

end

theorem zero_notMem_of_clear {scope : Scope} {joint : Joint} {sql : Text} (h : Clear scope joint sql) : '\x00' ∉ sql := by
  induction sql generalizing scope joint with
  | nil => exact not_mem_nil
  | cons c rest ih =>
    obtain ⟨hc, hrest⟩ := h
    have hclear : ∃ next joint, Clear next joint rest := by
      cases scope with
      | code =>
        simp only at hrest
        split_ifs at hrest
        · exact ⟨_, _, hrest⟩
        · exact ⟨_, _, hrest⟩
        · exact ⟨_, _, hrest.2⟩
      | single => exact ⟨_, _, hrest.2.2⟩
      | double => exact ⟨_, _, hrest.2.2⟩
      | line => exact ⟨_, _, hrest.2.2⟩
      | opening => exact ⟨_, _, hrest.2⟩
      | block => exact ⟨_, _, hrest⟩
      | closing => exact ⟨_, _, hrest⟩
    obtain ⟨next, joint, hclear⟩ := hclear
    exact not_or.mpr ⟨Ne.symm hc, ih hclear⟩ ∘ mem_cons.mp

theorem cString_of_zeroFree {query : Text} (h : '\x00' ∉ query) : cString query = query := by
  refine takeWhile_eq_self_iff.mpr fun c hc => ?_
  simpa using fun hzero : c = '\x00' => h (hzero ▸ hc)

-- The queries are the statements, and all of them are queued.
theorem queries_eq_statements (sql : Text) (hplain : Unescaped sql) (hclosed : Closed sql) (hclear : Clear .code .apart sql) :
    endsInString sql = false ∧ (queries sql).map wordsOf = statements sql := by
  have hstart : Agree Splitter.start .apart none sql Lexer.start.scope := ⟨rfl, rfl⟩
  obtain ⟨joint, last, htext, hagree⟩ := sameText_scan sameText_start hstart hclear (fun c hc => (hplain c hc).1) (by simp)
  have hscope : (split sql).stringScope = .none := by
    rcases hclosed with hcode | hline
    · rw [lex] at hcode
      rw [hcode] at hagree
      exact hagree.1
    · rw [lex] at hline
      rw [hline] at hagree
      exact hagree.1.1
  refine ⟨by simp [endsInString, hscope], ?_⟩
  have hfree : ZeroFree (split sql) :=
    ZeroFree.scan (List.forall_mem_cons.mpr ⟨List.not_mem_nil, fun query hquery => absurd hquery List.not_mem_nil⟩)
      (zero_notMem_of_clear hclear)
  have hqueries : queries sql = (split sql).allQueries := by
    refine (List.map_congr_left fun query hquery => cString_of_zeroFree (hfree query ?_)).trans (List.map_id _)
    unfold Splitter.allQueries at hquery
    split at hquery
    · exact List.mem_cons_of_mem _ hquery
    · exact List.perm_append_singleton _ _ |>.mem_iff.mp hquery
  have hempty : Splitter.isBlankQuery (split sql).query ↔ (lex sql).draft.gap.words = [] := by
    change _ ↔ (Lexer.start.scan sql).draft.gap.words = []
    rw [htext.gap_draft, Draft.words_gap_eq_nil]
    refine htext.blank.trans ⟨fun h => ?_, fun h => ?_⟩
    · rw [h]
      exact ⟨rfl, rfl⟩
    · exact congrArg₂ Draft.mk h.1 h.2
  rw [hqueries, Splitter.allQueries, statements, Lexer.allStatements]
  by_cases hblank : Splitter.isBlankQuery (split sql).query
  · rw [if_pos hblank, if_pos (hempty.mp hblank)]
    exact htext.statements
  · rw [if_neg hblank, if_neg (mt hempty.mpr hblank), List.map_append]
    refine congrArg₂ _ htext.statements (congrArg (fun words => [words]) ?_)
    exact (congrArg Draft.words htext.gap_draft).symm

def clearSql : Text :=
  ['A', ' ', '/', '*', ' ', 'b', ';', ' ', '*', '/', ' ', '\'', 'c', '-', '-', '\'', ';']

theorem queries_eq_statements_clearSql :
    endsInString clearSql = false ∧ (queries clearSql).map wordsOf = statements clearSql :=
  queries_eq_statements clearSql (by simp [Unescaped, clearSql]) (.inl (by decide))
    (by simp [clearSql, Clear, Scope.next, isBlank])

-- The opening of a block comment within a line comment hides the statement
-- on the next line.
def hiddenSql : Text := ['-', '-', ' ', '/', '*', '\n', 'A', ';', '\n', '-', '-', ' ', '*', '/']

theorem not_queries_eq_statements :
    ¬∀ sql : Text, Unescaped sql → Closed sql → (queries sql).map wordsOf = statements sql := by
  intro h
  have hsame := h hiddenSql (by simp [Unescaped, hiddenSql]) (.inr (by decide))
  exact absurd hsame (by decide)

end TurtleWow.Migrations

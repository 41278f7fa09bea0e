import Runbook.Proofs.Expr.Acceptance
import Runbook.Proofs.Expr.Parentheses

/-!
# Writing expressions

A writer puts parentheses only where the ranks of the operators ask for them, and what it writes
is read back as the tree that it wrote. No text of the tree has fewer parentheses.
-/

namespace Runbook

theorem BinaryOp.rank_lt (op : BinaryOp) : op.rank < 6 := by
  cases op <;> decide

namespace Grammar

/-! ## What is written -/

inductive Quote where
  | double
  | single

def Quote.mark : Quote → Char
  | .double => '"'
  | .single => '\''

def Quote.piece (quote : Quote) (c : Char) : Piece :=
  if c = quote.mark ∨ c = '\\' then .escape c else .plain c

structure Name where
  chars : List Char
  isIdentifier : Text.isIdentifier chars = true

/-- A tree with what a writer may choose: how each number is spelled and how each text is quoted. -/
inductive Spelling where
  | bool (v : Bool)
  | num (n : Numeral)
  | str (quote : Quote) (v : String)
  | var (name : Name) (htrue : name.chars ≠ "true".toList) (hfalse : name.chars ≠ "false".toList)
  | binary (op : BinaryOp) (left right : Spelling)
  | unary (op : UnaryOp) (operand : Spelling)
  | member (object : Spelling) (name : Name)
  | index (object key : Spelling)
  | call (callee : Spelling) (args : List Spelling)

def enclosed (rank : Nat) (e : Expr) (s : List Char) : List Char :=
  if e.rank < rank then '(' :: s ++ [')'] else s

namespace Spelling

mutual

def tree : Spelling → Expr
  | .bool v => .bool v
  | .num n => .num n.value
  | .str _ v => .str v
  | .var name _ _ => .var (String.ofList name.chars)
  | .binary op l r => .binary op l.tree r.tree
  | .unary op w => .unary op w.tree
  | .member w name => .member w.tree (String.ofList name.chars)
  | .index w key => .index w.tree key.tree
  | .call w args => .call w.tree (trees args)

def trees : List Spelling → List Expr
  | [] => []
  | w :: ws => w.tree :: trees ws

end

mutual

/-- The text of a tree. Operators of one rank are joined to the left, so that a right operand of the
same rank stands in parentheses and a left one does not. -/
def text : Spelling → List Char
  | .bool v => if v then "true".toList else "false".toList
  | .num n => n.text
  | .str quote v => quote.mark :: (v.toList.map quote.piece).flatMap Piece.text ++ [quote.mark]
  | .var name _ _ => name.chars
  | .binary op l r =>
    enclosed op.rank l.tree l.text ++ [' '] ++ op.symbol.toList ++ [' '] ++
      enclosed (op.rank + 1) r.tree r.text
  | .unary op w => op.symbol :: enclosed 6 w.tree w.text
  | .member w name => enclosed 7 w.tree w.text ++ ['.'] ++ name.chars
  | .index w key => enclosed 7 w.tree w.text ++ ['['] ++ key.text ++ [']']
  | .call w args => enclosed 7 w.tree w.text ++ ['('] ++ row args ++ [')']

def row : List Spelling → List Char
  | [] => []
  | w :: ws => w.text ++ if ws.isEmpty then [] else [',', ' '] ++ row ws

end

end Spelling

/-! ## What is written can be derived -/

def Phrase.operand (rank : Nat) (e : Expr) : Phrase :=
  if rank < 6 then .level rank e else if rank = 6 then .prefixed e else .suffixed e

section

variable {e : Expr} {s : List Char} {rank own : Nat}

theorem Derives.level_loosen (h : Derives (.level own e) s) (hle : rank ≤ own) (hown : own ≤ 6) :
    Derives (.level rank e) s := by
  induction own with
  | zero =>
    obtain rfl : rank = 0 := by omega
    exact h
  | succ own ih =>
    by_cases hrank : rank = own + 1
    · rwa [hrank]
    · exact ih (.tighter (by omega) h) (by omega) (by omega)

theorem Derives.level_of_operand (h : Derives (.operand rank e) s) (hrank : rank ≤ 6) :
    Derives (.level rank e) s := by
  unfold Phrase.operand at h
  by_cases hlt : rank < 6
  · rwa [if_pos hlt] at h
  · obtain rfl : rank = 6 := by omega
    exact .prefixed h

theorem Derives.loosen (h : Derives (.operand own e) s) (hle : rank ≤ own) :
    Derives (.operand rank e) s := by
  by_cases hown : own ≤ 6
  · by_cases hsame : rank = own
    · rwa [hsame]
    · have hlevel := (h.level_of_operand hown).level_loosen hle hown
      rwa [Phrase.operand, if_pos (by omega)]
  · have hsuffixed : Derives (.suffixed e) s := by
      rwa [Phrase.operand, if_neg (by omega), if_neg (by omega)] at h
    unfold Phrase.operand
    split
    · exact (Derives.suffixed hsuffixed).level (by omega)
    · split
      · exact .suffixed hsuffixed
      · exact hsuffixed

theorem Derives.enclosed (h : Derives (.operand e.rank e) s) (hrank : rank ≤ 7) :
    Derives (.operand rank e) (enclosed rank e s) := by
  unfold Grammar.enclosed
  split
  · have hinner : Derives (.level 0 e) s := h.loosen (Nat.zero_le _)
    have hpair : Derives (.suffixed e) ('(' :: [] ++ s ++ [] ++ [')']) :=
      .primary (.parenthesised .nil hinner .nil)
    rw [List.append_nil] at hpair
    have houter : Derives (.operand 7 e) ('(' :: s ++ [')']) := hpair
    exact houter.loosen hrank
  · exact h.loosen (by omega)

theorem Derives.object (h : Derives (.operand e.rank e) s) :
    Derives (.suffixed e) (Grammar.enclosed 7 e s) :=
  h.enclosed (Nat.le_refl 7)

end

theorem Quote.mark_mem (quote : Quote) : quote.mark ∈ ['"', '\''] := by
  cases quote <;> decide

theorem Quote.piece_fits (quote : Quote) (c : Char) : (quote.piece c).Fits quote.mark := by
  unfold piece
  split
  · trivial
  · rename_i hc
    exact not_or.mp hc

theorem Quote.char_piece (quote : Quote) (c : Char) : (quote.piece c).char = c := by
  unfold piece
  split
  · rename_i hc
    rcases hc with rfl | rfl
    · cases quote <;> rfl
    · rfl
  · rfl

theorem gap_space : Gap [' '] := by simp [Gap]

namespace Spelling

mutual

theorem derives_text (w : Spelling) : Derives (.operand w.tree.rank w.tree) w.text := by
  cases w with
  | bool v =>
    cases v with
    | true => exact .primary .true
    | false => exact .primary .false
  | num n => exact .primary (.number n)
  | str quote v =>
    have hfits : ∀ piece ∈ v.toList.map quote.piece, piece.Fits quote.mark := by
      simp [quote.piece_fits]
    have hchars : (v.toList.map quote.piece).map Piece.char = v.toList := by
      simp [Function.comp_def, quote.char_piece]
    have htext := Derives.text quote.mark_mem hfits
    rw [hchars, String.ofList_toList] at htext
    exact .primary htext
  | var name htrue hfalse => exact .primary (.var name.isIdentifier htrue hfalse)
  | binary op l r =>
    have hrank := op.rank_lt
    have hl := ((derives_text l).enclosed (by omega)).level_of_operand (by omega : op.rank ≤ 6)
    have hr := ((derives_text r).enclosed (by omega)).level_of_operand (by omega : op.rank + 1 ≤ 6)
    have hbinary := Derives.binary hl gap_space gap_space hr
    rw [tree, Expr.rank, Phrase.operand, if_pos hrank, text]
    exact hbinary
  | unary op w =>
    have hw : Derives (.prefixed w.tree) (enclosed 6 w.tree w.text) :=
      (derives_text w).enclosed (by omega : 6 ≤ 7)
    exact .unary .nil hw
  | member w name =>
    have hmember := Derives.member (derives_text w).object .nil .nil name.isIdentifier
    rw [List.append_nil] at hmember
    exact hmember
  | index w key =>
    have hkey : Derives (.level 0 key.tree) key.text := (derives_text key).loosen (Nat.zero_le _)
    have hindex := Derives.index (derives_text w).object .nil .nil hkey .nil
    rw [List.append_nil, List.append_nil] at hindex
    exact hindex
  | call w args =>
    cases args with
    | nil =>
      have hcall := Derives.callNone (derives_text w).object .nil .nil
      rw [text, row, List.append_nil]
      rw [List.append_nil] at hcall
      exact hcall
    | cons arg args =>
      have hargs := derives_row (arg :: args) (List.cons_ne_nil arg args)
      have hcall := Derives.call (derives_text w).object .nil .nil hargs .nil
      rw [List.append_nil, List.append_nil] at hcall
      exact hcall

theorem derives_row (ws : List Spelling) (hws : ws ≠ []) :
    Derives (.arguments (trees ws)) (row ws) := by
  cases ws with
  | nil => exact absurd rfl hws
  | cons w ws =>
    have hw : Derives (.level 0 w.tree) w.text := (derives_text w).loosen (Nat.zero_le _)
    cases ws with
    | nil =>
      rw [row, List.isEmpty_nil, if_pos rfl, List.append_nil]
      exact .argument hw
    | cons next ws =>
      have hrow := Derives.arguments hw .nil gap_space
        (derives_row (next :: ws) (List.cons_ne_nil next ws))
      rw [List.append_nil, List.append_assoc] at hrow
      exact hrow

end

theorem expresses_text (w : Spelling) : Expresses w.text w.tree :=
  w.derives_text.loosen (Nat.zero_le _)

end Spelling

/-! ## No blanks around a written text -/

def isWordChar (c : Char) : Bool :=
  isWordPart c || c ∈ ['.', '+', '-'] || Text.isIdentifierStart c

def blanks : List Nat :=
  List.range' 9 5 ++ [0x20, 0x85, 0xa0, 0x1680] ++ List.range' 0x2000 11 ++
    [0x2028, 0x2029, 0x202f, 0x205f, 0x3000]

theorem mem_blanks {c : Char} (h : Text.isBlank c = true) : c.toNat ∈ blanks := by
  simp only [Text.isBlank, Bool.or_eq_true, Bool.and_eq_true, decide_eq_true_eq, beq_iff_eq] at h
  simp only [blanks, List.mem_append, List.mem_range'_1, List.mem_cons, List.not_mem_nil, or_false]
  omega

theorem isBlank_of_isWordChar {c : Char} (h : isWordChar c = true) : Text.isBlank c = false := by
  rw [Bool.eq_false_iff]
  intro hblank
  have hnone : blanks.all (fun n => !isWordChar (Char.ofNat n)) = true := by decide +kernel
  have hword := List.all_eq_true.mp hnone c.toNat (mem_blanks hblank)
  rw [Char.ofNat_toNat, h] at hword
  simp at hword

theorem Numeral.isWordChar_of_mem {n : Numeral} {c : Char} (h : c ∈ n.text) :
    isWordChar c = true := by
  have hdigit : ∀ {ds : List Char}, Digits ds → c ∈ ds → isWordChar c = true := by
    intro ds hds hc
    simp [isWordChar, isWordPart, hds c hc]
  have hmark : c ∈ ['.', 'e', 'E', '+', '-'] → isWordChar c = true :=
    forall_mem_of_all (p := fun c => isWordChar c = true) (by decide) c
  rcases List.mem_append.mp h with h | h
  · rcases List.mem_append.mp h with h | h
    · exact hdigit n.whole_digits h
    · unfold fractionText at h
      split at h
      · simp at h
      · rcases List.mem_cons.mp h with hpoint | h
        · exact hmark (by simp [hpoint])
        · exact hdigit n.fraction_digits h
  · unfold exponentText at h
    cases hx : n.exponent with
    | none => simp [hx] at h
    | some x =>
      rw [hx] at h
      rcases List.mem_append.mp h with h | h
      · rcases List.mem_cons.mp h with hletter | h
        · have hmem := x.mark_mem
          rw [← hletter] at hmem
          exact hmark (List.mem_cons_of_mem '.' (List.mem_append_left ['+', '-'] hmem))
        · have hmem := x.sign_mem c (Option.mem_toList.mp h)
          exact hmark (List.mem_append_right ['.', 'e', 'E'] hmem)
      · exact hdigit x.digits_digits h

theorem isWordChar_of_mem_name {name : List Char} {c : Char} (hname : Text.isIdentifier name = true)
    (h : c ∈ name) : isWordChar c = true := by
  cases name with
  | nil => simp at h
  | cons d rest =>
    rw [Text.isIdentifier, Bool.and_eq_true, List.all_eq_true] at hname
    rcases List.mem_cons.mp h with rfl | hrest
    · simp [isWordChar, hname.1]
    · simp [isWordChar, isWordPart, hname.2 c hrest]

def EndsFirm (s : List Char) : Prop := ∃ t c, s = t ++ [c] ∧ Text.isBlank c = false

theorem EndsFirm.append {t : List Char} (h : EndsFirm t) (s : List Char) : EndsFirm (s ++ t) := by
  obtain ⟨u, c, rfl, hc⟩ := h
  exact ⟨s ++ u, c, (List.append_assoc ..).symm, hc⟩

theorem isBlank_of_mark {c : Char} (h : c ∈ ['.', '"', '\'', '(']) : Text.isBlank c = false :=
  forall_mem_of_all (p := fun c => Text.isBlank c = false) (by decide) c h

theorem endsFirm_of_word {s : List Char} (hne : s ≠ []) (h : ∀ c ∈ s, isWordChar c = true) :
    EndsFirm s :=
  ⟨s.dropLast, s.getLast hne, (List.dropLast_concat_getLast hne).symm,
    isBlank_of_isWordChar (h _ (List.getLast_mem hne))⟩

theorem endsFirm_name {name : List Char} (hname : Text.isIdentifier name = true) : EndsFirm name := by
  obtain ⟨c, t, rfl, -⟩ := isIdentifier_cons hname
  exact endsFirm_of_word (List.cons_ne_nil c t) fun _ => isWordChar_of_mem_name hname

theorem Derives.endsFirm {p : Phrase} {s : List Char} (h : Derives p s) : EndsFirm s := by
  induction h with
  | prefixed _ ih | tighter _ _ ih | suffixed _ ih | primary _ ih | argument _ ih => exact ih
  | binary _ _ _ _ _ ih => exact ih.append _
  | unary _ _ ih => exact ih.append _
  | member _ _ _ hname _ => exact (endsFirm_name hname).append _
  | index _ _ _ _ _ _ _ => exact ⟨_, ']', rfl, by decide⟩
  | call _ _ _ _ _ _ _ => exact ⟨_, ')', rfl, by decide⟩
  | callNone _ _ _ _ => exact ⟨_, ')', rfl, by decide⟩
  | arguments _ _ _ _ _ ih => exact ih.append _
  | number n =>
    obtain ⟨c, t, htext, -⟩ := n.text_cons
    exact endsFirm_of_word (by simp [htext]) fun _ => Numeral.isWordChar_of_mem
  | @text quote pieces hquote _ =>
    have hmark := List.mem_cons_of_mem '.' (List.mem_append_left ['('] hquote)
    exact ⟨_, quote, rfl, isBlank_of_mark hmark⟩
  | true => exact ⟨"tru".toList, 'e', rfl, by decide⟩
  | false => exact ⟨"fals".toList, 'e', rfl, by decide⟩
  | var hname _ _ => exact endsFirm_name hname
  | parenthesised _ _ _ _ => exact ⟨_, ')', rfl, by decide⟩

theorem Phrase.Starts.isBlank {p : Phrase} {c : Char} (h : p.Starts c) : Text.isBlank c = false := by
  rcases h.weaken with hstart | ⟨op, rfl⟩
  · simp only [startsPrimary, Bool.or_eq_true, decide_eq_true_eq] at hstart
    rcases hstart with (hmark | hdigit) | hname
    · exact isBlank_of_mark hmark
    · exact isBlank_of_isWordChar (by simp [isWordChar, isWordPart, hdigit])
    · exact isBlank_of_isWordChar (by simp [isWordChar, hname])
  · cases op <;> decide

theorem Derives.trimChars {p : Phrase} {s : List Char} (h : Derives p s) :
    Text.trimChars s = s := by
  have hstart : Text.trimStart s = s := by
    obtain ⟨c, t, rfl, hc⟩ := h.start
    exact List.dropWhile_cons_of_neg (by simp [hc.isBlank])
  have hend : Text.trimEnd s = s := by
    obtain ⟨t, c, rfl, hc⟩ := h.endsFirm
    rw [Text.trimEnd, List.reverse_concat, List.dropWhile_cons_of_neg (by simp [hc]),
      List.reverse_cons, List.reverse_reverse]
  rw [Text.trimChars, hstart, hend]

/-! ## How many parentheses are written -/

theorem count_of_word {s : List Char} (h : ∀ c ∈ s, isWordChar c = true) : s.count '(' = 0 := by
  rw [List.count_eq_zero]
  intro hmem
  have hword := h '(' hmem
  rw [(by decide : isWordChar '(' = false)] at hword
  simp at hword

theorem count_enclosed (rank : Nat) (e : Expr) (s : List Char) :
    (enclosed rank e s).count '(' = pairs rank e + s.count '(' := by
  unfold enclosed pairs
  split
  · simp [List.count_append, Nat.add_comm]
  · simp

theorem Quote.count_pieces (quote : Quote) (cs : List Char) :
    ((cs.map quote.piece).flatMap Piece.text).count '(' = cs.count '(' := by
  induction cs with
  | nil => rfl
  | cons c cs ih =>
    have hpiece : (quote.piece c).text.count '(' = [c].count '(' := by
      unfold piece
      split <;> simp [Piece.text, List.count_cons]
    rw [List.map_cons, List.flatMap_cons, List.count_append, ih, hpiece, List.count_cons (l := cs),
      List.count_singleton, Nat.add_comm]

namespace Spelling

mutual

theorem count_text (w : Spelling) : w.text.count '(' = opens w.tree := by
  cases w with
  | bool v => cases v <;> rfl
  | num n => exact count_of_word fun _ => Numeral.isWordChar_of_mem
  | str quote v =>
    have hmark : quote.mark ≠ '(' := by cases quote <;> decide
    have hcount := quote.count_pieces v.toList
    simp only [text, tree, opens]
    simp [List.count_append, hmark, hcount]
  | var name _ _ => exact count_of_word fun _ => isWordChar_of_mem_name name.isIdentifier
  | binary op l r =>
    have hsymbol : op.symbol.toList.count '(' = 0 := by cases op <;> rfl
    have hspace : [' '].count '(' = 0 := rfl
    rw [text, tree, opens, ← count_text l, ← count_text r]
    simp only [List.count_append, count_enclosed, hsymbol, hspace]
    omega
  | unary op w =>
    have hsymbol : op.symbol ≠ '(' := by cases op <;> decide
    rw [text, tree, opens, ← count_text w, List.count_cons_of_ne hsymbol, count_enclosed]
  | member w name =>
    have hname : name.chars.count '(' = 0 :=
      count_of_word fun _ => isWordChar_of_mem_name name.isIdentifier
    rw [text, tree, opens, ← count_text w]
    simp [List.count_append, count_enclosed, hname]
  | index w key =>
    rw [text, tree, opens, ← count_text w, ← count_text key]
    simp [List.count_append, count_enclosed]
  | call w args =>
    rw [text, tree, opens, ← count_text w, ← count_row args]
    simp [List.count_append, count_enclosed, Nat.add_comm]

theorem count_row (ws : List Spelling) : (row ws).count '(' = opensAll (trees ws) := by
  cases ws with
  | nil => rfl
  | cons w ws =>
    rw [row, trees, opensAll, ← count_text w, ← count_row ws]
    cases ws with
    | nil => simp [row]
    | cons next ws => simp [List.count_append]

end

end Spelling

/-! ## What is read can be written -/

def Phrase.Spelled : Phrase → Prop
  | .level _ e | .prefixed e | .suffixed e | .primary e => ∃ w : Spelling, w.tree = e
  | .arguments es => ∃ ws, Spelling.trees ws = es

theorem Derives.spelled {p : Phrase} {s : List Char} (h : Derives p s) : p.Spelled := by
  induction h with
  | prefixed _ ih | tighter _ _ ih | suffixed _ ih | primary _ ih => exact ih
  | @binary op _ _ _ _ _ _ _ _ _ _ ihl ihr =>
    obtain ⟨l, rfl⟩ := ihl
    obtain ⟨r, rfl⟩ := ihr
    exact ⟨.binary op l r, rfl⟩
  | @unary op _ _ _ _ _ ih =>
    obtain ⟨w, rfl⟩ := ih
    exact ⟨.unary op w, rfl⟩
  | member _ _ _ hname ih =>
    obtain ⟨w, rfl⟩ := ih
    exact ⟨.member w ⟨_, hname⟩, rfl⟩
  | index _ _ _ _ _ ihe ihkey =>
    obtain ⟨w, rfl⟩ := ihe
    obtain ⟨key, rfl⟩ := ihkey
    exact ⟨.index w key, rfl⟩
  | call _ _ _ _ _ ihe ihargs =>
    obtain ⟨w, rfl⟩ := ihe
    obtain ⟨args, rfl⟩ := ihargs
    exact ⟨.call w args, rfl⟩
  | callNone _ _ _ ih =>
    obtain ⟨w, rfl⟩ := ih
    exact ⟨.call w [], rfl⟩
  | argument _ ih =>
    obtain ⟨w, rfl⟩ := ih
    exact ⟨[w], rfl⟩
  | arguments _ _ _ _ ihe ihes =>
    obtain ⟨w, rfl⟩ := ihe
    obtain ⟨ws, rfl⟩ := ihes
    exact ⟨w :: ws, rfl⟩
  | number n => exact ⟨.num n, rfl⟩
  | text _ _ => exact ⟨.str .double _, rfl⟩
  | true => exact ⟨.bool Bool.true, rfl⟩
  | false => exact ⟨.bool Bool.false, rfl⟩
  | var hname htrue hfalse => exact ⟨.var ⟨_, hname⟩ htrue hfalse, rfl⟩
  | parenthesised _ _ _ ih => exact ih

end Grammar

open Grammar

theorem Expr.expresses_of_parse {text : String} {e : Expr} (h : Expr.parse text = .ok e) :
    Expresses (Text.trimChars text.toList) e :=
  parseChars_trimmed_iff.mp (parse_eq_ok_iff.mp h)

theorem Expr.parse_of_expresses {s : List Char} {e : Expr} (h : Expresses s e) :
    Expr.parse (String.ofList s) = .ok e := by
  rw [parse_eq_ok_iff, String.toList_ofList, h.trimChars]
  exact parseChars_of_expresses h

theorem Text.trimChars_sublist (cs : List Char) : (Text.trimChars cs).Sublist cs := by
  have hstart : (Text.trimStart cs).Sublist cs := List.dropWhile_sublist _
  have hend : (Text.trimEnd (Text.trimStart cs)).Sublist (Text.trimStart cs) := by
    rw [← List.reverse_sublist, Text.trimEnd, List.reverse_reverse]
    exact List.dropWhile_sublist _
  exact hend.trans hstart

/-- What is written is read back as the tree that was written, however its numbers are spelled and
its texts quoted, and every other text of the tree has at least as many parentheses. Every tree that
any text reads as can be written. -/
theorem Expr.parse_text :
    (∀ w : Spelling, Expr.parse (String.ofList w.text) = .ok w.tree ∧
      ∀ text, Expr.parse text = .ok w.tree → w.text.count '(' ≤ text.toList.count '(') ∧
    ∀ text e, Expr.parse text = .ok e → ∃ w : Spelling, w.tree = e := by
  refine ⟨fun w => ⟨?_, fun text h => ?_⟩, fun text e h => (expresses_of_parse h).spelled⟩
  · exact parse_of_expresses w.expresses_text
  · have hpairs : pairs 0 w.tree = 0 := pairs_eq_zero (Nat.zero_le _)
    have hle : pairs 0 w.tree + opens w.tree ≤ (Text.trimChars text.toList).count '(' :=
      (expresses_of_parse h).opens_le
    calc w.text.count '(' = opens w.tree := w.count_text
      _ ≤ (Text.trimChars text.toList).count '(' := by omega
      _ ≤ text.toList.count '(' := (Text.trimChars_sublist _).count_le _

theorem Expr.parse_text_nested :
    let a : Spelling := .var ⟨['a'], by decide⟩ (by decide) (by decide)
    let w : Spelling := .binary .sub a (.binary .sub (.str .single "it's (")
      (.unary .not (.call (.member a ⟨"true".toList, by decide⟩) [a, .bool false])))
    let other := String.ofList ('(' :: w.text ++ [')'])
    String.ofList w.text = "a - ('it\\'s (' - !a.true(a, false))" ∧
    Expr.parse "a - ('it\\'s (' - !a.true(a, false))" = .ok w.tree ∧
    Expr.parse other = .ok w.tree ∧ w.text.count '(' ≤ other.toList.count '(' ∧
    ∃ w' : Spelling, w'.tree = w.tree := by
  intro a w other
  have htext : String.ofList w.text = "a - ('it\\'s (' - !a.true(a, false))" := by rfl
  have hread : Expr.parse (String.ofList w.text) = .ok w.tree := (Expr.parse_text.1 w).1
  have hother : Expr.parse other = .ok w.tree := by
    have hpair : Derives (.primary w.tree) ('(' :: [] ++ w.text ++ [] ++ [')']) :=
      .parenthesised .nil w.expresses_text .nil
    rw [List.append_nil] at hpair
    exact Expr.parse_of_expresses ((Derives.suffixed hpair.primary).level (Nat.zero_le 6))
  rw [htext] at hread
  exact ⟨htext, hread, hother, (Expr.parse_text.1 w).2 other hother,
    Expr.parse_text.2 other w.tree hother⟩

end Runbook

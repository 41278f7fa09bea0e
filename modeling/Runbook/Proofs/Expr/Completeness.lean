import Runbook.Proofs.Expr.Follow

/-!
# What is derivable is read

The tree of what is read is the one of the derivation. The reader takes no step back, so each
phrase is read with what follows it at hand: an operand together with the operators that go on
after it.
-/

namespace Runbook.Grammar

/-- With fuel for each of its characters and some more, the reader gives that result. -/
def Reads {α : Type} (extra : Nat) (run : Nat → List Char → Except Expected α) (cs : List Char)
    (a : α) : Prop :=
  ∀ fuel, 16 * cs.length + extra ≤ fuel → run fuel cs = .ok a

theorem Reads.of_succ {α : Type} {extra : Nat} {run : Nat → List Char → Except Expected α}
    {cs : List Char} {a : α}
    (h : ∀ fuel, 16 * cs.length + extra ≤ fuel → run (fuel + 1) cs = .ok a) :
    Reads (extra + 1) run cs a := by
  intro fuel hfuel
  obtain ⟨fuel, rfl⟩ : ∃ n, fuel = n + 1 := ⟨fuel - 1, by omega⟩
  exact h fuel (by omega)

def readLevel (rank fuel : Nat) (cs : List Char) : Except Expected (Expr × List Char) :=
  Expr.binaryFrom fuel (Expr.levels.drop rank) cs

def readChain (rank : Nat) (left : Expr) (fuel : Nat) (cs : List Char) :
    Except Expected (Expr × List Char) :=
  Expr.chain fuel (opsAt rank) (Expr.levels.drop (rank + 1)) left cs

theorem readLevel_succ {rank : Nat} (hrank : rank < 6) (fuel : Nat) (cs : List Char) :
    readLevel rank (fuel + 1) cs
      = readLevel (rank + 1) fuel cs >>= fun p => readChain rank p.1 fuel p.2 := by
  rw [readLevel, levels_drop hrank, Expr.binaryFrom]
  rfl

theorem readChain_succ {rank : Nat} {l : Expr} {op : BinaryOp} {cs after : List Char}
    (h : Expr.operator? (opsAt rank) (Expr.skipGap cs) = some (op, after)) (fuel : Nat) :
    readChain rank l (fuel + 1) cs = readLevel (rank + 1) fuel (Expr.skipGap after) >>=
      fun p => readChain rank (.binary op l p.1) fuel p.2 := by
  rw [readChain, Expr.chain, h]
  rfl

/-- The reader reads the phrase, and goes on from there. What it goes on with after an operand is
given as what it reads of the rest. -/
def Complete : Phrase → List Char → Prop
  -- Between two characters each function calls the next one down, so each needs one step more.
  | .level rank e, s =>
    (rank < 6 → ∀ rest r, Apart rest → Quiet (rank + 1) rest → Reads 1 (readChain rank e) rest r →
      Reads (9 - rank) (readLevel rank) (s ++ rest) r) ∧
    (rank = 6 → ∀ rest, Apart rest → Quiet 6 rest → Reads 3 (readLevel 6) (s ++ rest) (e, rest))
  | .prefixed e, s =>
    ∀ rest, Apart rest → Quiet 6 rest → Reads 2 Expr.prefixed (s ++ rest) (e, rest)
  | .suffixed e, s =>
    ∀ rest r, Apart rest → Reads 1 (fun fuel => Expr.suffixed fuel e) rest r →
      Reads 2 Expr.prefixed (s ++ rest) r
  | .primary e, s => ∀ rest, Apart rest → Reads 1 Expr.primary (s ++ rest) (e, rest)
  | .arguments es, s =>
    ∀ k rest, Gap k → Reads 10 Expr.argumentRow (s ++ (k ++ ')' :: rest)) (es, rest)

variable {rank : Nat} {e : Expr} {s rest : List Char}

/-! ## Operators between operands -/

theorem readChain_of_quiet (h : Quiet rank rest) : Reads 1 (readChain rank e) rest (e, rest) := by
  apply Reads.of_succ
  intro fuel _
  rw [readChain, Expr.chain, h.operator?_eq_none]

theorem Complete.level_end (h : Complete (.level rank e) s) (hrank : rank ≤ 6) (hrest : Apart rest)
    (hquiet : Quiet rank rest) : Reads (9 - rank) (readLevel rank) (s ++ rest) (e, rest) := by
  rcases Nat.lt_or_eq_of_le hrank with hlt | rfl
  · exact h.1 hlt rest _ hrest (hquiet.mono (Nat.le_succ rank)) (readChain_of_quiet hquiet)
  · exact h.2 rfl rest hrest hquiet

theorem Complete.tighter (hrank : rank < 6) (ih : Complete (.level (rank + 1) e) s) :
    Complete (.level rank e) s := by
  refine ⟨fun _ rest r hrest hquiet hchain => ?_, fun h => absurd h (by omega)⟩
  have hread := ih.level_end hrank hrest hquiet
  rw [show 9 - rank = 9 - (rank + 1) + 1 by omega]
  apply Reads.of_succ
  intro fuel hfuel
  have hlen : (s ++ rest).length = s.length + rest.length := List.length_append
  rw [readLevel_succ hrank, hread fuel hfuel]
  exact hchain fuel (by omega)

theorem Complete.binary {op : BinaryOp} {l r : Expr} {s g h t : List Char} (hg : Gap g) (hh : Gap h)
    (hr : Derives (.level (op.rank + 1) r) t) (ihl : Complete (.level op.rank l) s)
    (ihr : Complete (.level (op.rank + 1) r) t) :
    Complete (.level op.rank (.binary op l r)) (s ++ g ++ op.symbol.toList ++ h ++ t) := by
  have hrank : op.rank < 6 := by cases op <;> decide
  refine ⟨fun _ rest result hrest hquiet hchain => ?_, fun h => absurd h (by omega)⟩
  obtain ⟨c, cs, hsymbol, -⟩ := symbol_cons op
  obtain ⟨hapart, hnext⟩ := follow_symbol op hg (h ++ (t ++ rest))
  -- The left operand is read by the same level, which then goes on with this operator.
  have hgo :
      Reads 1 (readChain op.rank l) (g ++ (op.symbol.toList ++ (h ++ (t ++ rest)))) result := by
    apply Reads.of_succ
    intro fuel hfuel
    have hop : Expr.operator? (opsAt op.rank)
        (Expr.skipGap (g ++ (op.symbol.toList ++ (h ++ (t ++ rest))))) =
          some (op, h ++ (t ++ rest)) := by
      rw [skipGap_append hg (stops_isGap_symbol _)]
      exact operator?_symbol (hr.stops_equals hh rest)
    have hskip : Expr.skipGap (h ++ (t ++ rest)) = t ++ rest :=
      skipGap_append hh (hr.stops_isGap rest)
    have hright := ihr.level_end hrank hrest hquiet
    simp only [hsymbol, List.length_append, List.length_cons] at hfuel
    rw [readChain_succ hop, hskip, hright fuel (by simp only [List.length_append]; omega)]
    exact hchain fuel (by omega)
  simpa using ihl.1 hrank _ result hapart hnext hgo

theorem Complete.prefixed (ih : Complete (.prefixed e) s) : Complete (.level 6 e) s := by
  refine ⟨fun h => absurd h (by omega), fun _ rest hrest hquiet => ?_⟩
  apply Reads.of_succ
  intro fuel hfuel
  exact ih rest hrest hquiet fuel hfuel

/-! ## Operators before an operand -/

theorem Complete.unary {op : UnaryOp} {g : List Char} (hg : Gap g) (hd : Derives (.prefixed e) s)
    (ih : Complete (.prefixed e) s) : Complete (.prefixed (.unary op e)) (op.symbol :: g ++ s) := by
  intro rest hrest hquiet
  apply Reads.of_succ
  intro fuel hfuel
  have hop : Expr.unaryOp? op.symbol = some op := unaryOp?_eq_some_iff.mpr rfl
  have hskip : Expr.skipGap (g ++ s ++ rest) = s ++ rest := by
    rw [List.append_assoc, skipGap_append hg (hd.stops_isGap rest)]
  simp only [List.cons_append, List.length_cons, List.length_append] at hfuel
  simp only [List.cons_append, Expr.prefixed, hop, hskip]
  rw [ih rest hrest hquiet fuel (by simp only [List.length_append]; omega)]
  rfl

theorem unaryOp?_of_startsPrimary {c : Char} (h : startsPrimary c = true) :
    Expr.unaryOp? c = none := by
  cases hop : Expr.unaryOp? c with
  | none => rfl
  | some op =>
    obtain rfl := unaryOp?_eq_some_iff.mp hop
    cases op <;> simp [UnaryOp.symbol, startsPrimary_eq_false] at h

theorem suffixed_of_quiet (h : Quiet 6 rest) :
    Reads 1 (fun fuel => Expr.suffixed fuel e) rest (e, rest) := by
  apply Reads.of_succ
  intro fuel _
  unfold Expr.suffixed
  split
  · rename_i after hnext
    exact absurd (h '.' after hnext) (by decide)
  · rename_i after hnext
    exact absurd (h '[' after hnext) (by decide)
  · rename_i after hnext
    exact absurd (h '(' after hnext) (by decide)
  · rfl

theorem Complete.suffixed (ih : Complete (.suffixed e) s) : Complete (.prefixed e) s := by
  intro rest hrest hquiet
  exact ih rest _ hrest (suffixed_of_quiet hquiet)

/-! ## What follows an operand -/

theorem Complete.primary (hd : Derives (.primary e) s) (ih : Complete (.primary e) s) :
    Complete (.suffixed e) s := by
  intro rest r hrest hsuffixed
  obtain ⟨c, t, rfl, hc⟩ := hd.start
  have hread := ih rest hrest
  apply Reads.of_succ
  intro fuel hfuel
  simp only [List.cons_append, List.length_cons, List.length_append] at hfuel hread ⊢
  simp only [Expr.prefixed, unaryOp?_of_startsPrimary hc]
  rw [hread fuel (by simp only [List.length_cons, List.length_append]; omega)]
  exact hsuffixed fuel (by omega)

theorem Complete.member {g h name : List Char} (hg : Gap g) (hh : Gap h)
    (hname : Text.isIdentifier name = true) (ih : Complete (.suffixed e) s) :
    Complete (.suffixed (.member e (String.ofList name))) (s ++ g ++ '.' :: h ++ name) := by
  intro rest r hrest hsuffixed
  have hgo : Reads 1 (fun fuel => Expr.suffixed fuel e) (g ++ '.' :: (h ++ (name ++ rest))) r := by
    apply Reads.of_succ
    intro fuel hfuel
    have hskip : Expr.skipGap (g ++ '.' :: (h ++ (name ++ rest))) = '.' :: (h ++ (name ++ rest)) :=
      skipGap_append hg (.cons rfl _)
    simp only [List.length_append, List.length_cons] at hfuel
    simp only [Expr.suffixed, hskip, skipGap_append hh (stops_isGap_name hname rest),
      identifier?_append hname hrest]
    exact hsuffixed fuel (by omega)
  simpa using ih _ r (apart_member hg hh hname rest) hgo

theorem Complete.upTo {c : Char} (hc : c ∈ [',', ')', ']']) {g k : List Char} (hg : Gap g)
    (hk : Gap k) (hd : Derives (.level 0 e) s) (ih : Complete (.level 0 e) s) (t : List Char)
    {fuel : Nat} (hfuel : 16 * (s ++ (k ++ c :: t)).length + 9 ≤ fuel) :
    Expr.binaryFrom fuel Expr.levels (Expr.skipGap (g ++ (s ++ (k ++ c :: t))))
        = .ok (e, k ++ c :: t) ∧
      Expr.skipGap (k ++ c :: t) = c :: t := by
  obtain ⟨hapart, hquiet⟩ := follow_mark hc hk t
  have hgap : Expr.isGap c = false :=
    forall_mem_of_all (p := fun c => Expr.isGap c = false) (by decide) c hc
  rw [skipGap_append hg (hd.stops_isGap _)]
  exact ⟨ih.level_end (Nat.zero_le 6) hapart hquiet fuel hfuel, skipGap_append hk (.cons hgap t)⟩

theorem Complete.index {key : Expr} {g h t k : List Char} (hg : Gap g) (hh : Gap h)
    (hkey : Derives (.level 0 key) t) (hk : Gap k) (ih : Complete (.suffixed e) s)
    (ihkey : Complete (.level 0 key) t) :
    Complete (.suffixed (.index e key)) (s ++ g ++ '[' :: h ++ t ++ k ++ [']']) := by
  intro rest r hrest hsuffixed
  have hgo : Reads 1 (fun fuel => Expr.suffixed fuel e)
      (g ++ '[' :: (h ++ (t ++ (k ++ ']' :: rest)))) r := by
    apply Reads.of_succ
    intro fuel hfuel
    simp only [List.length_append, List.length_cons] at hfuel
    obtain ⟨hread, hclose⟩ := ihkey.upTo (c := ']') (by simp) hh hk hkey rest
      (by simp only [List.length_append, List.length_cons]; omega : _ ≤ fuel)
    have hskip : Expr.skipGap (g ++ '[' :: (h ++ (t ++ (k ++ ']' :: rest))))
        = '[' :: (h ++ (t ++ (k ++ ']' :: rest))) := skipGap_append hg (.cons rfl _)
    simp only [Expr.suffixed, hskip, hread, bind, Except.bind, hclose]
    exact hsuffixed fuel (by omega)
  simpa using ih _ r (apart_bracket (by simp) hg _) hgo

theorem Complete.called {args : List Expr} {g h t : List Char} (hg : Gap g)
    (ih : Complete (.suffixed e) s)
    (hargs : ∀ rest, Reads 11 (fun fuel cs => Expr.arguments fuel (Expr.skipGap (h ++ cs)))
      (t ++ rest) (args, rest)) :
    Complete (.suffixed (.call e args)) (s ++ g ++ '(' :: h ++ t) := by
  intro rest r hrest hsuffixed
  have hgo : Reads 1 (fun fuel => Expr.suffixed fuel e) (g ++ '(' :: (h ++ (t ++ rest))) r := by
    apply Reads.of_succ
    intro fuel hfuel
    simp only [List.length_append, List.length_cons] at hfuel
    have hread := hargs rest fuel (by simp only [List.length_append]; omega)
    have hskip : Expr.skipGap (g ++ '(' :: (h ++ (t ++ rest))) = '(' :: (h ++ (t ++ rest)) :=
      skipGap_append hg (.cons rfl _)
    simp only at hread
    simp only [Expr.suffixed, hskip, hread, bind, Except.bind]
    exact hsuffixed fuel (by omega)
  simpa using ih _ r (apart_bracket (by simp) hg _) hgo

theorem arguments_eq_row {args : List Expr} {t : List Char} (h : Derives (.arguments args) t)
    {fuel : Nat} : Expr.arguments (fuel + 1) (t ++ rest) = Expr.argumentRow fuel (t ++ rest) := by
  obtain ⟨c, u, rfl, hc⟩ := h.head_not_mem
  unfold Expr.arguments
  split
  · rename_i after hclose
    obtain ⟨rfl, -⟩ := List.cons.inj hclose
    simp at hc
  · rfl

theorem Complete.callNone {g h : List Char} (hg : Gap g) (hh : Gap h)
    (ih : Complete (.suffixed e) s) :
    Complete (.suffixed (.call e [])) (s ++ g ++ '(' :: h ++ [')']) := by
  refine ih.called hg fun rest => ?_
  apply Reads.of_succ
  intro fuel _
  rw [List.cons_append, List.nil_append, skipGap_append hh (.cons rfl rest), Expr.arguments]

theorem Complete.call {args : List Expr} {g h t k : List Char} (hg : Gap g) (hh : Gap h)
    (hargs : Derives (.arguments args) t) (hk : Gap k) (ih : Complete (.suffixed e) s)
    (ihargs : Complete (.arguments args) t) :
    Complete (.suffixed (.call e args)) (s ++ g ++ '(' :: h ++ t ++ k ++ [')']) := by
  have hcalled :
      Complete (.suffixed (.call e args)) (s ++ g ++ '(' :: h ++ (t ++ (k ++ [')']))) := by
    refine ih.called hg fun rest => ?_
    apply Reads.of_succ
    intro fuel hfuel
    have hrow := ihargs k rest hk fuel (by simpa using hfuel)
    simp only [List.append_assoc, List.cons_append, List.nil_append]
    rw [skipGap_append hh (hargs.stops_isGap _), arguments_eq_row hargs, hrow]
  simpa using hcalled

/-! ## Arguments -/

theorem Complete.argument (hd : Derives (.level 0 e) s) (ih : Complete (.level 0 e) s) :
    Complete (.arguments [e]) s := by
  intro k rest hk
  apply Reads.of_succ
  intro fuel hfuel
  obtain ⟨hread, hclose⟩ := ih.upTo (c := ')') (by simp) Gap.nil hk hd rest hfuel
  rw [List.nil_append, skipGap_of_stops (hd.stops_isGap _)] at hread
  simp only [Expr.argumentRow, hread, bind, Except.bind, hclose]

theorem Complete.arguments {es : List Expr} {g h t : List Char} (hg : Gap g) (hh : Gap h)
    (hd : Derives (.level 0 e) s) (hes : Derives (.arguments es) t) (ih : Complete (.level 0 e) s)
    (ihes : Complete (.arguments es) t) :
    Complete (.arguments (e :: es)) (s ++ g ++ ',' :: h ++ t) := by
  intro k rest hk
  apply Reads.of_succ
  intro fuel hfuel
  simp only [List.length_append, List.length_cons] at hfuel
  obtain ⟨hread, hcomma⟩ :=
    ih.upTo (c := ',') (by simp) Gap.nil hg hd (h ++ (t ++ (k ++ ')' :: rest)))
    (by simp only [List.length_append, List.length_cons]; omega : _ ≤ fuel)
  rw [List.nil_append, skipGap_of_stops (hd.stops_isGap _)] at hread
  have hrow := ihes k rest hk fuel (by simp only [List.length_append, List.length_cons]; omega)
  simp only [List.append_assoc, List.cons_append, Expr.argumentRow, hread, bind, Except.bind,
    hcomma, skipGap_append hh (hes.stops_isGap _), hrow]

/-! ## Operands -/

theorem Complete.parenthesised {g h : List Char} (hg : Gap g) (hd : Derives (.level 0 e) s)
    (hh : Gap h) (ih : Complete (.level 0 e) s) :
    Complete (.primary e) ('(' :: g ++ s ++ h ++ [')']) := by
  intro rest hrest
  apply Reads.of_succ
  intro fuel hfuel
  simp only [List.length_append, List.length_cons] at hfuel
  obtain ⟨hread, hclose⟩ := ih.upTo (c := ')') (by simp) hg hh hd rest
    (by simp only [List.length_append, List.length_cons]; omega : _ ≤ fuel)
  simp only [List.cons_append, List.append_assoc, List.nil_append, Expr.primary, hread, bind,
    Except.bind, hclose]

theorem Complete.atom {c : Char} (hs : s.head? = some c) (hc : c ≠ '(')
    (h : ∀ rest, Apart rest → Expr.atom? (s ++ rest) = some (e, rest)) :
    Complete (.primary e) s := by
  intro rest hrest
  apply Reads.of_succ
  intro fuel _
  unfold Expr.primary
  split
  · rename_i inner hinner
    obtain ⟨t, rfl⟩ := List.head?_eq_some_iff.mp hs
    exact absurd (List.cons.inj hinner).1 hc
  · rw [h rest hrest]

theorem Complete.word {name : List Char} (hname : Text.isIdentifier name = true) :
    Complete (.primary (wordTree name)) name := by
  obtain ⟨c, t, hcons, hc⟩ := isIdentifier_cons hname
  have hopen : c ≠ '(' := by
    rintro rfl
    exact (identifierStart_apart hc).2 (by simp)
  exact .atom (by rw [hcons, List.head?_cons]) hopen fun rest hrest => atom?_word hname hrest

theorem Complete.number (n : Numeral) : Complete (.primary (.num n.value)) n.text := by
  obtain ⟨c, t, hcons, hc⟩ := n.text_cons
  have hopen : c ≠ '(' := by
    rintro rfl
    simp at hc
  exact .atom (by rw [hcons, List.head?_cons]) hopen fun rest hrest => atom?_number n hrest

theorem Complete.text {quote : Char} {pieces : List Piece} (hquote : quote ∈ ['"', '\''])
    (hfit : ∀ piece ∈ pieces, piece.Fits quote) :
    Complete (.primary (.str (String.ofList (pieces.map Piece.char))))
      (quote :: pieces.flatMap Piece.text ++ [quote]) := by
  have hopen : quote ≠ '(' := by
    rintro rfl
    simp at hquote
  exact .atom rfl hopen fun rest _ => atom?_text hquote hfit rest

/-! ## Whole texts -/

theorem Derives.complete {p : Phrase} {s : List Char} (h : Derives p s) : Complete p s := by
  induction h with
  | prefixed _ ih => exact ih.prefixed
  | tighter hrank _ ih => exact .tighter hrank ih
  | binary _ hg hh hr ihl ihr => exact .binary hg hh hr ihl ihr
  | unary hg hd ih => exact .unary hg hd ih
  | suffixed _ ih => exact ih.suffixed
  | primary hd ih => exact .primary hd ih
  | member _ hg hh hname ih => exact ih.member hg hh hname
  | index _ hg hh hkey hk ih ihkey => exact ih.index hg hh hkey hk ihkey
  | call _ hg hh hargs hk ih ihargs => exact ih.call hg hh hargs hk ihargs
  | callNone _ hg hh ih => exact ih.callNone hg hh
  | argument hd ih => exact .argument hd ih
  | arguments hd hg hh hes ih ihes => exact .arguments hg hh hd hes ih ihes
  | number n => exact .number n
  | text hquote hfit => exact .text hquote hfit
  | true => exact Complete.word (by decide)
  | false => exact Complete.word (by decide)
  | @var name hname htrue hfalse =>
    have hword : wordTree name = .var (String.ofList name) := by
      rw [wordTree, if_neg htrue, if_neg hfalse]
    exact hword ▸ Complete.word hname
  | parenthesised hg hd hh ih => exact .parenthesised hg hd hh ih

theorem parseChars_of_expresses {cs : List Char} {e : Expr} (h : Expresses cs e) :
    Expr.parseChars cs = .ok e := by
  have hread := (Derives.complete h).level_end (Nat.zero_le 6) Apart.nil Quiet.nil
  have hfuel := hread (Expr.fuelFor cs.length) (by simp [Expr.fuelFor]; omega)
  simp only [readLevel, List.drop_zero, List.append_nil] at hfuel
  simp only [Expr.parseChars, hfuel, bind, Except.bind]
  rfl

end Runbook.Grammar

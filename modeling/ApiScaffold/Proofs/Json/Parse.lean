import ApiScaffold.Json.Printer
import ApiScaffold.Json.Reader
import ApiScaffold.Proofs.Assoc
import ApiScaffold.Proofs.Except
import ApiScaffold.Proofs.Json.Number
import ApiScaffold.Proofs.Json.Quoted

/-!
Reading a printed value back. Along its tokens the stack machine does nothing but hand the value to the
collection that waits for it.
-/

namespace ApiScaffold.Json

open Chain

/-- Data whose text denotes them: no floats, no numbers with more digits than can be read and no key twice. -/
inductive Legible : Data → Prop
  | null : Legible .null
  | bool (b : Bool) : Legible (.bool b)
  | int {n : Int} : (Nat.toDigits 10 n.natAbs).length ≤ maxDigits → Legible (.int n)
  | string (s : String) : Legible (.string s)
  | list {items : List Data} : (∀ v ∈ items, Legible v) → Legible (.list items)
  | map {entries : List (String × Data)} : (∀ entry ∈ entries, Legible entry.2) →
      (entries.map Prod.fst).Nodup → Legible (.map entries)

lemma tokens_space {c : Char} (hc : isSpace c) (offset : Nat) (s : List Char) :
    tokens offset (c :: s) = tokens (offset + 1) s := by
  rw [tokens, if_pos hc]

lemma tokens_spaces (n offset : Nat) (s : List Char) :
    tokens offset (List.replicate n ' ' ++ s) = tokens (offset + n) s := by
  induction n generalizing offset with
  | zero => rfl
  | succ n ih =>
    rw [List.replicate_succ, List.cons_append, tokens_space (by decide), ih]
    congr 1
    omega

lemma tokens_newline (depth offset : Nat) (s : List Char) :
    tokens offset (newline depth ++ s) = tokens (offset + 1 + 2 * depth) s := by
  rw [newline, List.cons_append, tokens_space (by decide), tokens_spaces]

lemma tokens_punctuation {c : Char} (token : Token) (hc : punctuation? c = some token) (offset : Nat)
    (s : List Char) :
    tokens offset (c :: s) = (offset, token) :: tokens (offset + 1) s := by
  have hspace : isSpace c = false := by
    unfold punctuation? at hc
    split at hc <;> first | rfl | cases hc
  rw [tokens, hspace]
  simp [hc]

lemma tokens_string {offset : Nat} {s rest : List Char} {units : List Nat}
    (h : readString offset (offset + 1) s = .ok (units, rest)) :
    tokens offset ('"' :: s) = (offset, .scalar (.string (String.ofList (joinUnits units))))
      :: tokens (offset + 1 + (s.length - rest.length)) rest := by
  have hspace : isSpace '"' = false := by decide
  have hpunctuation : punctuation? '"' = none := by decide
  rw [tokens, hspace]
  simp only [Bool.false_eq_true, if_false, hpunctuation, if_true]
  split
  · rename_i hread
    rw [h] at hread
    cases hread
    rfl
  · rename_i hread
    rw [h] at hread
    cases hread

lemma tokens_scalar {c : Char} {tail rest : List Char} {value : Data} (hspace : isSpace c = false)
    (hpunctuation : punctuation? c = none) (hquote : c ≠ '"') (h : readScalar (c :: tail) = .ok (value, rest))
    (offset : Nat) :
    tokens offset (c :: tail) = (offset, .scalar value) ::
      tokens (offset + (tail.length + 1 - rest.length)) rest := by
  rw [tokens, hspace]
  simp only [Bool.false_eq_true, if_false, hpunctuation, if_neg hquote]
  split
  · rename_i hread
    rw [h] at hread
    cases hread
    rfl
  · rename_i hread
    rw [h] at hread
    cases hread

lemma exists_tokens_quote (offset : Nat) (s : String) (rest : List Char) :
    ∃ next, tokens offset (quote s ++ rest) = (offset, .scalar (.string s)) :: tokens next rest := by
  have hread : readString offset (offset + 1) (s.toList.flatMap escape ++ '"' :: rest) =
      .ok (s.toList.map Char.toNat, rest) := readString_flatMap ..
  have hquote : quote s ++ rest = '"' :: (s.toList.flatMap escape ++ '"' :: rest) := by simp [quote]
  rw [hquote, tokens_string hread, joinUnits_toNat, String.ofList_toList]
  exact ⟨_, rfl⟩

def Denotes (text : List Char) (value : Data) : Prop :=
  ∀ offset rest outer, Ends rest → ∃ start token more next,
    tokens offset (text ++ rest) = (start, token) :: more ∧ token ≠ .closeList ∧
      run (.value outer) (tokens offset (text ++ rest)) = run (complete value outer) (tokens next rest)

lemma denotes_scalar {text : List Char} {value : Data}
    (h : ∀ offset rest, Ends rest → ∃ next,
      tokens offset (text ++ rest) = (offset, .scalar value) :: tokens next rest) :
    Denotes text value := by
  intro offset rest outer hrest
  obtain ⟨next, htokens⟩ := h offset rest hrest
  exact ⟨_, _, _, next, htokens, nofun, by rw [htokens]; rfl⟩

lemma denotes_quote (s : String) : Denotes (quote s) (.string s) :=
  denotes_scalar fun offset rest _ => exists_tokens_quote offset s rest

lemma ne_of_isDigit {c d : Char} (hc : c.isDigit) (hd : d.isDigit = false) : d ≠ c := by
  rintro rfl
  rw [hc] at hd
  cases hd

lemma readScalar_digits {n : Nat} (hn : (Nat.toDigits 10 n).length ≤ maxDigits) {rest : List Char}
    (h : Ends rest) :
    readScalar (Nat.toDigits 10 n ++ rest) = .ok (.int n, rest) := by
  have hread := readNumber_toDigits false hn h
  obtain ⟨c, digits, hd, hc⟩ := exists_toDigits_eq_cons n
  have hminus : c ≠ '-' := (ne_of_isDigit hc rfl).symm
  rw [hd, List.cons_append] at hread
  simp [hd, readScalar, words, ne_of_isDigit hc, hminus, hread]

lemma readScalar_minus {n : Nat} (hn : (Nat.toDigits 10 n).length ≤ maxDigits) {rest : List Char}
    (h : Ends rest) :
    readScalar ('-' :: (Nat.toDigits 10 n ++ rest)) = .ok (.int (-n), rest) := by
  have hread := readNumber_toDigits true hn h
  obtain ⟨c, digits, hd, hc⟩ := exists_toDigits_eq_cons n
  rw [hd, List.cons_append] at hread
  simp [hd, readScalar, words, ne_of_isDigit hc, hread]

lemma toList_ofNat (n : Nat) : (toString (Int.ofNat n)).toList = Nat.toDigits 10 n := Nat.toList_repr

lemma toList_negSucc (n : Nat) : (toString (Int.negSucc n)).toList = '-' :: Nat.toDigits 10 (n + 1) := by
  have happend : toString (Int.negSucc n) = "-" ++ (n + 1).repr := rfl
  rw [happend, String.toList_append, Nat.toList_repr]
  rfl

lemma denotes_int {n : Int} (hn : (Nat.toDigits 10 n.natAbs).length ≤ maxDigits) :
    Denotes (toString n).toList (.int n) := by
  refine denotes_scalar fun offset rest hrest => ?_
  cases n with
  | ofNat n =>
    have hread : readScalar (Nat.toDigits 10 n ++ rest) = .ok (.int n, rest) := readScalar_digits hn hrest
    rw [toList_ofNat]
    obtain ⟨c, digits, hd, hc⟩ := exists_toDigits_eq_cons n
    have hspace : isSpace c = false := by
      simp [isSpace, (ne_of_isDigit hc _).symm]
    have hpunctuation : punctuation? c = none := by
      unfold punctuation?
      split <;> first | rfl | exact absurd hc (by decide)
    rw [hd] at hread ⊢
    exact ⟨_, tokens_scalar hspace hpunctuation (ne_of_isDigit hc rfl).symm hread offset⟩
  | negSucc n =>
    rw [toList_negSucc]
    exact ⟨_, tokens_scalar (by decide) (by decide) (by decide) (readScalar_minus hn hrest) offset⟩

lemma ends_printItems (depth : Nat) (items : List Data) (rest : List Char) :
    Ends (printItems false (depth + 1) items ++ (newline depth ++ rest)) := by
  cases items with
  | nil => exact ⟨_, _, rfl, .inr rfl⟩
  | cons v items => exact ⟨_, _, rfl, .inl rfl⟩

lemma run_printItems {items : List Data} (h : ∀ v ∈ items, ∀ depth, Denotes (print depth v) v) (depth : Nat)
    (acc : List Data) (offset : Nat) (rest : List Char) (outer : List Frame) : ∃ next,
    run (.afterItem acc outer)
      (tokens offset (printItems false (depth + 1) items ++ (newline depth ++ ']' :: rest))) =
      run (complete (.list (acc.reverse ++ items)) outer) (tokens next rest) := by
  induction items generalizing acc offset with
  | nil =>
    rw [printItems, List.nil_append, tokens_newline, tokens_punctuation .closeList rfl, List.append_nil]
    exact ⟨_, rfl⟩
  | cons v items ih =>
    obtain ⟨-, -, -, after, -, -, hv⟩ := h v List.mem_cons_self (depth + 1) (offset + 1 + 1 + 2 * (depth + 1))
      (printItems false (depth + 1) items ++ (newline depth ++ ']' :: rest)) (.list acc :: outer)
      (ends_printItems ..)
    obtain ⟨next, hrest⟩ := ih (fun u hu => h u (List.mem_cons_of_mem v hu)) (v :: acc) after
    have htext : printItems false (depth + 1) (v :: items) ++ (newline depth ++ ']' :: rest) =
        ',' :: (newline (depth + 1) ++ (print (depth + 1) v ++
          (printItems false (depth + 1) items ++ (newline depth ++ ']' :: rest)))) := by
      simp [printItems]
    have hstep (ts : List (Nat × Token)) : run (.afterItem acc outer) ((offset, .comma) :: ts) =
        run (.value (.list acc :: outer)) ts := rfl
    rw [htext, tokens_punctuation .comma rfl, tokens_newline, hstep, hv, complete, hrest]
    exact ⟨next, by simp⟩

lemma step_firstItem {token : Token} (h : token ≠ .closeList) (start : Nat) (outer : List Frame) :
    step (.firstItem outer) (start, token) = step (.value (.list [] :: outer)) (start, token) := by
  cases token <;> first | rfl | exact absurd rfl h

lemma denotes_list {items : List Data} (h : ∀ v ∈ items, ∀ depth, Denotes (print depth v) v) (depth : Nat) :
    Denotes (print depth (.list items)) (.list items) := by
  intro offset rest outer hrest
  cases items with
  | nil =>
    have htokens : tokens offset (print depth (.list []) ++ rest) =
        (offset, .openList) :: (offset + 1, .closeList) :: tokens (offset + 1 + 1) rest := by
      rw [print, List.isEmpty_nil, if_pos rfl, List.cons_append, List.cons_append,
        tokens_punctuation .openList rfl, tokens_punctuation .closeList rfl, List.nil_append]
    exact ⟨_, _, _, _, htokens, nofun, by rw [htokens]; rfl⟩
  | cons v items =>
    have htext : print depth (.list (v :: items)) ++ rest =
        '[' :: (newline (depth + 1) ++ (print (depth + 1) v ++
        (printItems false (depth + 1) items ++ (newline depth ++ ']' :: rest)))) := by
      simp [print, printItems]
    obtain ⟨start, token, more, after, htokens, hne, hv⟩ := h v List.mem_cons_self (depth + 1)
      (offset + 1 + 1 + 2 * (depth + 1))
      (printItems false (depth + 1) items ++ (newline depth ++ ']' :: rest))
      (.list [] :: outer) (ends_printItems ..)
    obtain ⟨next, hitems⟩ :=
      run_printItems (fun u hu => h u (List.mem_cons_of_mem v hu)) depth [v] after rest outer
    have hfirst : run (.firstItem outer) ((start, token) :: more) =
        run (.value (.list [] :: outer)) ((start, token) :: more) := by
      rw [run, run, step_firstItem hne]
    have hopen (ts : List (Nat × Token)) : run (.value outer) ((offset, .openList) :: ts) =
        run (.firstItem outer) ts := rfl
    rw [htext, tokens_punctuation .openList rfl, tokens_newline]
    refine ⟨_, _, _, next, rfl, nofun, ?_⟩
    rw [hopen, htokens, hfirst, ← htokens, hv, complete, hitems]
    rfl

lemma ends_printEntries (depth : Nat) (entries : List (String × Data)) (rest : List Char) :
    Ends (printEntries false (depth + 1) entries ++ (newline depth ++ rest)) := by
  cases entries with
  | nil => exact ⟨_, _, rfl, .inr rfl⟩
  | cons entry entries => exact ⟨_, _, rfl, .inl rfl⟩

lemma run_entry {value : Data} {depth : Nat} (h : Denotes (print depth value) value)
    (key : String) (first : Bool) (acc : List (String × Data)) (offset : Nat) {rest : List Char}
    (hrest : Ends rest) (outer : List Frame) :
    ∃ next, run (.key first acc outer)
      (tokens offset (quote key ++ ':' :: ' ' :: (print depth value ++ rest))) =
      run (.afterEntry ((key, value) :: acc) outer) (tokens next rest) := by
  obtain ⟨colon, hkey⟩ := exists_tokens_quote offset key (':' :: ' ' :: (print depth value ++ rest))
  obtain ⟨-, -, -, next, -, -, hvalue⟩ := h (colon + 1 + 1) rest (.map acc key :: outer) hrest
  have hstep (ts : List (Nat × Token)) : run (.key first acc outer)
      ((offset, .scalar (.string key)) :: (colon, .colon) :: ts) = run (.value (.map acc key :: outer)) ts :=
      rfl
  rw [hkey, tokens_punctuation .colon rfl, tokens_space (by decide), hstep, hvalue, complete]
  exact ⟨next, rfl⟩

lemma run_printEntries {entries : List (String × Data)}
    (h : ∀ entry ∈ entries, ∀ depth, Denotes (print depth entry.2) entry.2)
    (depth : Nat) (acc : List (String × Data)) (offset : Nat) (rest : List Char)
    (outer : List Frame) :
    ∃ next, run (.afterEntry acc outer)
      (tokens offset (printEntries false (depth + 1) entries ++ (newline depth ++ '\x7d' :: rest))) =
      run (complete (.map (Assoc.ofList (acc.reverse ++ entries))) outer) (tokens next rest) := by
  induction entries generalizing acc offset with
  | nil =>
    rw [printEntries, List.nil_append, tokens_newline, tokens_punctuation .closeMap rfl, List.append_nil]
    exact ⟨_, rfl⟩
  | cons entry entries ih =>
    obtain ⟨key, value⟩ := entry
    obtain ⟨after, hentry⟩ := run_entry (h (key, value) List.mem_cons_self (depth + 1)) key false acc
      (offset + 1 + 1 + 2 * (depth + 1)) (ends_printEntries depth entries ('\x7d' :: rest)) outer
    obtain ⟨next, hrest⟩ := ih (fun e he => h e (List.mem_cons_of_mem _ he)) ((key, value) :: acc) after
    have htext : printEntries false (depth + 1) ((key, value) :: entries) ++
        (newline depth ++ '\x7d' :: rest) =
        ',' :: (newline (depth + 1) ++ (quote key ++ ':' :: ' ' :: (print (depth + 1) value ++
          (printEntries false (depth + 1) entries ++ (newline depth ++ '\x7d' :: rest))))) := by
      simp [printEntries]
    have hstep (ts : List (Nat × Token)) : run (.afterEntry acc outer) ((offset, .comma) :: ts) =
        run (.key false acc outer) ts := rfl
    rw [htext, tokens_punctuation .comma rfl, tokens_newline, hstep, hentry, hrest]
    exact ⟨next, by simp⟩

lemma denotes_map {entries : List (String × Data)}
    (h : ∀ entry ∈ entries, ∀ depth, Denotes (print depth entry.2) entry.2)
    (hkeys : (entries.map Prod.fst).Nodup) (depth : Nat) : Denotes (print depth (.map entries))
    (.map entries) := by
  intro offset rest outer hrest
  cases entries with
  | nil =>
    have htokens : tokens offset (print depth (.map []) ++ rest) =
        (offset, .openMap) :: (offset + 1, .closeMap) :: tokens (offset + 1 + 1) rest := by
      rw [print, List.isEmpty_nil, if_pos rfl, List.cons_append, List.cons_append,
        tokens_punctuation .openMap rfl, tokens_punctuation .closeMap rfl, List.nil_append]
    exact ⟨_, _, _, _, htokens, nofun, by rw [htokens]; rfl⟩
  | cons entry entries =>
    obtain ⟨key, value⟩ := entry
    have htext : print depth (.map ((key, value) :: entries)) ++ rest =
        '\x7b' :: (newline (depth + 1) ++ (quote key ++
        ':' :: ' ' :: (print (depth + 1) value ++
          (printEntries false (depth + 1) entries ++ (newline depth ++ '\x7d' :: rest))))) := by
      simp [print, printEntries]
    obtain ⟨after, hentry⟩ := run_entry (h (key, value) List.mem_cons_self (depth + 1)) key true []
      (offset + 1 + 1 + 2 * (depth + 1)) (ends_printEntries depth entries ('\x7d' :: rest)) outer
    obtain ⟨next, hentries⟩ :=
      run_printEntries (fun e he => h e (List.mem_cons_of_mem _ he)) depth [(key, value)] after
      rest outer
    have hopen (ts : List (Nat × Token)) : run (.value outer) ((offset, .openMap) :: ts) =
        run (.key true [] outer) ts := rfl
    rw [htext, tokens_punctuation .openMap rfl, tokens_newline]
    refine ⟨_, _, _, next, rfl, nofun, ?_⟩
    rw [hopen, hentry, hentries, List.reverse_singleton, List.singleton_append, Assoc.ofList_of_nodup hkeys]

lemma denotes_word (c : Char) (tail : List Char) {value : Data} (hspace : isSpace c = false)
    (hpunctuation : punctuation? c = none) (hquote : c ≠ '"')
    (h : ∀ rest, readScalar (c :: (tail ++ rest)) = .ok (value, rest)) : Denotes (c :: tail) value :=
  denotes_scalar fun offset rest _ => ⟨_, tokens_scalar hspace hpunctuation hquote (h rest) offset⟩

lemma Legible.denotes {value : Data} (h : Legible value) (depth : Nat) :
    Denotes (print depth value) value := by
  induction h generalizing depth with
  | null => exact denotes_word 'n' ['u', 'l', 'l'] rfl rfl (by decide) fun rest => rfl
  | bool b =>
    cases b
    · exact denotes_word 'f' ['a', 'l', 's', 'e'] rfl rfl (by decide) fun rest => rfl
    · exact denotes_word 't' ['r', 'u', 'e'] rfl rfl (by decide) fun rest => rfl
  | int hn =>
    rw [print]
    exact denotes_int hn
  | string s =>
    rw [print]
    exact denotes_quote s
  | list _ ih => exact denotes_list (fun v hv => ih v hv) depth
  | map _ hkeys ih => exact denotes_map (fun entry hentry => ih entry hentry) hkeys depth

lemma head?_toString (n : Int) : ∃ c more, (toString n).toList = c :: more ∧ (c.isDigit ∨ c = '-') := by
  cases n with
  | ofNat n =>
    rw [toList_ofNat]
    cases hd : Nat.toDigits 10 n with
    | nil => exact absurd hd Nat.toDigits_ne_nil
    | cons c digits => exact ⟨c, digits, rfl, .inl (isDigit_toDigits n c (by simp [hd]))⟩
  | negSucc n => exact ⟨_, _, toList_negSucc n, .inr rfl⟩

lemma Legible.head?_print {value : Data} (h : Legible value) (depth : Nat) (rest : List Char) :
    (print depth value ++ rest).head? ≠ some '\ufeff' := by
  cases h with
  | null => simp [print]
  | bool b => cases b <;> simp [print]
  | @int n _ =>
    obtain ⟨c, more, htext, hc⟩ := head?_toString n
    rw [print, htext, List.cons_append, List.head?_cons, ne_eq, Option.some.injEq]
    rintro rfl
    exact absurd hc (by decide)
  | string s => simp [print, quote]
  | @list items _ => cases items <;> simp [print]
  | @map entries _ _ => cases entries <;> simp [print]

lemma parse_dump {value : Data} (h : Legible value) : parse (dump value).toList = .ok value := by
  obtain ⟨-, -, -, next, -, -, hrun⟩ := h.denotes 0 0 ['\n'] [] ⟨_, _, rfl, .inr rfl⟩
  have hfinish : tokens next ['\n'] = [(next + 1, .finish)] := by
    rw [tokens_space (by decide), tokens]
  rw [dump, String.toList_ofList, parse, if_neg (h.head?_print 0 ['\n']), hrun, hfinish]
  rfl

lemma notMem_newline (depth : Nat) : '\r' ∉ newline depth := by
  simp [newline]

lemma notMem_toString (n : Int) : '\r' ∉ (toString n).toList := by
  cases n with
  | ofNat n =>
    rw [toList_ofNat]
    exact notMem_toDigits (by decide) n
  | negSucc n =>
    rw [toList_negSucc, List.mem_cons, not_or]
    exact ⟨by decide, notMem_toDigits (by decide) _⟩

lemma notMem_printItems {items : List Data} (h : ∀ v ∈ items, ∀ depth, '\r' ∉ print depth v)
    (first : Bool) (depth : Nat) :
    '\r' ∉ printItems first depth items := by
  induction items generalizing first with
  | nil => simp [printItems]
  | cons v items ih =>
    have hv := h v List.mem_cons_self depth
    have hrest := ih (fun u hu => h u (List.mem_cons_of_mem v hu)) false
    cases first <;> simp [printItems, notMem_newline, hv, hrest]

lemma notMem_printEntries {entries : List (String × Data)}
    (h : ∀ entry ∈ entries, ∀ depth, '\r' ∉ print depth entry.2)
    (first : Bool) (depth : Nat) : '\r' ∉ printEntries first depth entries := by
  induction entries generalizing first with
  | nil => simp [printEntries]
  | cons entry entries ih =>
    have hv := h entry List.mem_cons_self depth
    have hrest := ih (fun e he => h e (List.mem_cons_of_mem entry he)) false
    cases first <;> simp [printEntries, notMem_newline, notMem_quote, hv, hrest]

lemma Legible.notMem_print {value : Data} (h : Legible value) (depth : Nat) : '\r' ∉ print depth value := by
  induction h generalizing depth with
  | null => simp [print]
  | bool b => cases b <;> simp [print]
  | @int n _ =>
    rw [print]
    exact notMem_toString n
  | string s =>
    rw [print]
    exact notMem_quote s
  | @list items _ ih =>
    have hitems := notMem_printItems ih true (depth + 1)
    cases hempty : items.isEmpty <;> simp [print, hempty, notMem_newline, hitems]
  | @map entries _ _ ih =>
    have hentries := notMem_printEntries ih true (depth + 1)
    cases hempty : entries.isEmpty <;> simp [print, hempty, notMem_newline, hentries]

end ApiScaffold.Json

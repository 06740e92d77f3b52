import ApiScaffold.Proofs.Yaml.Atom

/-!
Nodes in block style. The indent tells where a node ends, so it can be told from what follows: two nodes
at the same place with the same text, each followed by what may follow it, are the same.
-/

namespace ApiScaffold.Yaml

/--
What follows a node whose lines have an indent of at least `n`: the end of the text, or a line with
less of it.
-/
inductive Ends (n : Nat) : List Char → Prop
  | last : Ends n ['\n']
  | next {k : Nat} {c : Char} (rest : List Char) : k < n → c ≠ ' ' → Ends n (newline k ++ c :: rest)

structure Place.Ends (place : Place) (rest : List Char) : Prop where
  line : Yaml.Ends place.mapIndent rest
  item : ¬ newline place.listIndent ++ ['-', ' '] <+: rest

variable {k m n : Nat} {c d : Char} {s t rest more : List Char} {place : Place} {token : Token}

lemma newline_append_inj (hc : c ≠ ' ') (hd : d ≠ ' ') (h : newline m ++ c :: s = newline n ++ d :: t) :
    m = n ∧ c :: s = d :: t := by
  simp only [newline, List.cons_append, List.cons.injEq, true_and] at h
  induction m generalizing n with
  | zero =>
    cases n with
    | zero => exact ⟨rfl, h⟩
    | succ n => exact absurd (List.cons.inj h).1 hc
  | succ m ih =>
    cases n with
    | zero => exact absurd (List.cons.inj h).1.symm hd
    | succ n =>
      obtain ⟨heq, h⟩ := ih (List.cons.inj h).2
      exact ⟨congrArg Nat.succ heq, h⟩

namespace Ends

lemma mono (h : Ends n rest) (hle : n ≤ m) : Ends m rest := by
  cases h with
  | last => exact .last
  | next more hk hc => exact .next more (by omega) hc

lemma ne_newline (h : Ends n rest) (hle : n ≤ m) (hc : c ≠ ' ') (s : List Char) :
    rest ≠ newline m ++ c :: s := by
  intro heq
  cases h with
  | last =>
    have hlength := congrArg List.length heq
    simp [newline] at hlength
  | next more hk hd =>
    have hm := (newline_append_inj hd hc heq).1
    omega

lemma head (h : Ends n rest) : ∃ more, rest = '\n' :: more := by
  cases h <;> exact ⟨_, rfl⟩

lemma stops (h : Ends n rest) (hle : n ≤ m) (hm : 0 < m) : Stops m rest := by
  cases h with
  | last =>
    refine .line fun hprefix => ?_
    have hlength := hprefix.length_le
    rw [List.length_replicate, List.length_nil] at hlength
    omega
  | @next k c more hk hc =>
    refine .line fun ⟨u, hu⟩ => ?_
    obtain ⟨j, rfl⟩ := Nat.exists_eq_add_of_lt (show k < m by omega)
    rw [Nat.add_assoc, List.replicate_add, List.append_assoc] at hu
    exact hc (List.cons.inj (List.append_cancel_left hu)).1.symm

end Ends

namespace Place

lemma Ends.stops (h : place.Ends rest) : Stops place.spot.indent rest := by
  cases place <;> exact h.line.stops (by simp [mapIndent, spot]) (by simp [spot])

lemma Ends.head_ne (h : place.Ends rest) : rest.head? ≠ some ':' := by
  obtain ⟨more, rfl⟩ := h.line.head
  simp

lemma ends_afterMark (h : Yaml.Ends (n + 2) rest) : (afterMark n).Ends rest :=
  ⟨h, fun ⟨more, hmore⟩ => h.ne_newline (c := '-') (Nat.le_refl _) (by decide) (' ' :: more)
    (by rw [← hmore, List.append_assoc]; rfl)⟩

lemma Ends.inner (h : place.Ends rest) (column : Nat) : (afterKey place.listIndent column).Ends rest :=
  ⟨h.line.mono (by cases place <;> simp [mapIndent, listIndent]), h.item⟩

end Place

def keyText (indent : Nat) (key : String) : List Char :=
  writeString true ⟨false, indent + 2, indent⟩ key.toList

def entryText (indent : Nat) (key : String) (value : Data) : List Char :=
  if isSimpleKey key.toList then
    keyText indent key ++ ':' :: node (.afterKey indent (indent + (keyText indent key).length + 1)) value
  else '?' :: writeKeyString (.afterMark indent) key ++ newline indent ++ ':' ::
    node (.afterMark indent) value

lemma items_cons (opening : List Char) (indent : Nat) (x : Data) (xs : List Data) (rest : List Char) :
    items opening indent (x :: xs) ++ rest =
      opening ++ '-' :: (node (.afterMark indent) x ++ (items (newline indent) indent xs ++ rest)) := by
  simp only [items, List.append_assoc, List.cons_append]

lemma entries_cons (opening : List Char) (indent : Nat) (entry : String × Data) (es : List (String × Data))
    (rest : List Char) :
    entries opening indent (entry :: es) ++ rest =
      opening ++ (entryText indent entry.1 entry.2 ++ (entries (newline indent) indent es ++ rest)) := by
  rw [entries, List.append_assoc, List.append_assoc]
  rfl

lemma node_list (place : Place) (x : Data) (xs : List Data) :
    node place (.list (x :: xs)) = items (place.opening place.listIndent) place.listIndent (x :: xs) := rfl

lemma node_map (place : Place) (entry : String × Data) (es : List (String × Data)) :
    node place (.map (entry :: es)) = entries (place.opening place.mapIndent) place.mapIndent (entry :: es) :=
  rfl

lemma prefix_node (place : Place) (value : Data) :
    ∃ start ∈ [place.lead, place.opening place.listIndent, place.opening place.mapIndent],
    start <+: node place value := by
  cases value with
  | bool b => cases b <;> exact ⟨place.lead, by simp, List.prefix_append _ _⟩
  | list xs =>
    cases xs with
    | nil => exact ⟨place.lead, by simp, List.prefix_append _ _⟩
    | cons x xs =>
      exact ⟨place.opening place.listIndent, by simp, by
        rw [node_list, items, List.append_assoc]; exact List.prefix_append _ _⟩
  | map es =>
    cases es with
    | nil => exact ⟨place.lead, by simp, List.prefix_append _ _⟩
    | cons e es =>
      exact ⟨place.opening place.mapIndent, by simp, by
        rw [node_map, entries, List.append_assoc]; exact List.prefix_append _ _⟩
  | _ => exact ⟨place.lead, by simp, List.prefix_append _ _⟩

lemma exists_node_afterMark (n : Nat) (value : Data) : ∃ t, node (.afterMark n) value = ' ' :: t := by
  obtain ⟨start, hstart, t, ht⟩ := prefix_node (.afterMark n) value
  have hblank : start = [' '] := by simpa [Place.lead, Place.opening] using hstart
  exact ⟨t, by rw [← ht, hblank]; rfl⟩

lemma head_node_afterKey (n column : Nat) (value : Data) :
    ∀ c ∈ (node (.afterKey n column) value ++ rest).head?, c = ' ' ∨ c = '\n' := by
  obtain ⟨start, hstart, t, ht⟩ := prefix_node (.afterKey n column) value
  rw [← ht]
  simp only [List.mem_cons, List.not_mem_nil, or_false] at hstart
  rcases hstart with rfl | rfl | rfl <;> simp [Place.lead, Place.opening, newline]

lemma eq_of_lead_eq_opening (h : place.lead ++ s = place.opening n ++ t) : s = t := by
  cases place with
  | start => exact h
  | afterMark => exact (List.cons.inj h).2
  | afterKey => exact absurd (List.cons.inj h).1 (by decide)

lemma eq_of_opening_eq_opening (hc : c ≠ ' ') (hd : d ≠ ' ')
    (h : place.opening place.listIndent ++ c :: s = place.opening place.mapIndent ++ d :: t) :
    c :: s = d :: t := by
  cases place with
  | start => exact h
  | afterMark => exact (List.cons.inj h).2
  | afterKey => exact (newline_append_inj hc hd h).2

lemma entryText_of_simple {key : String} (h : isSimpleKey key.toList) (n : Nat) (value : Data) :
    entryText n key value =
    keyText n key ++ ':' :: node (.afterKey n (n + (keyText n key).length + 1)) value :=
  if_pos h

lemma entryText_of_long {key : String} (h : ¬ isSimpleKey key.toList) (n : Nat) (value : Data) :
    entryText n key value =
      '?' :: ' ' ::
        (writeString false ⟨true, n + 2, n + 2⟩ key.toList ++
          (newline n ++ ':' :: node (.afterMark n) value)) := by
  rw [entryText, if_neg h, List.append_assoc]
  rfl

lemma spells_keyText {key : String} (h : Printable key) (n indent : Nat) :
    (Token.ofString key.toList).Spells indent (keyText n key) :=
  spells_writeString h true _ nofun

variable {key other : String} {value : Data}

lemma head_entryText (hkey : Printable key) (n : Nat) (value : Data) :
    ∃ c t, entryText n key value = c :: t ∧ c ≠ ' ' := by
  by_cases hsimple : isSimpleKey key.toList
  · obtain ⟨c, t, ht, hc, -⟩ := (spells_keyText hkey n 0).head
    exact ⟨c, _, by rw [entryText_of_simple hsimple, ht]; rfl, hc⟩
  · exact ⟨'?', _, entryText_of_long hsimple n value, by decide⟩

lemma entryText_ne_item (hkey : Printable key) (n : Nat) (value : Data) (rest more : List Char) :
    entryText n key value ++ rest ≠ '-' :: ' ' :: more := by
  intro heq
  by_cases hsimple : isSimpleKey key.toList
  · rw [entryText_of_simple hsimple, List.append_assoc] at heq
    exact (spells_keyText hkey n 0).not_marked _ ⟨'-', more, heq, .inl rfl⟩
  · rw [entryText_of_long hsimple] at heq
    exact absurd (List.cons.inj heq).1 (by decide)

lemma read_entryText (hkey : Printable key) (hsimple : isSimpleKey key.toList) (indent n : Nat) (value : Data)
    (rest : List Char) :
    Token.read indent (entryText n key value ++ rest) =
      (.ofString key.toList, ':' :: (node (.afterKey n (n + (keyText n key).length + 1)) value ++ rest)) := by
  rw [entryText_of_simple hsimple, List.append_assoc]
  exact (spells_keyText hkey n indent).read_eq (.key (head_node_afterKey n _ value))

lemma entryText_ne_token (hkey : Printable key) {indent : Nat} (htoken : token.Spells indent t)
    (hrest : Stops indent rest) (hcolon : rest.head? ≠ some ':') (n : Nat) (value : Data) (more : List Char) :
    t ++ rest ≠ entryText n key value ++ more := by
  intro heq
  by_cases hsimple : isSimpleKey key.toList
  · have hread := htoken.read_eq hrest
    rw [heq, read_entryText hkey hsimple] at hread
    rw [← (Prod.mk.inj hread).2] at hcolon
    exact hcolon rfl
  · rw [entryText_of_long hsimple] at heq
    exact htoken.not_marked rest ⟨'?', _, heq, .inr rfl⟩

/-- The text of a value at a place tells it from every other one, and where it ends. -/
def Determined (value : Data) : Prop :=
  ∀ (place : Place) (other : Data) (r s : List Char), Legible other → place.Ends r → place.Ends s →
    node place value ++ r = node place other ++ s → value = other ∧ r = s

variable {a b : Data} {r s : List Char}

lemma Place.Ends.afterKey {column : Nat} (h : (Place.afterKey n column).Ends rest) (other : Nat) :
    (Place.afterKey n other).Ends rest := ⟨h.line, h.item⟩

lemma longText_unique (hkey : Printable key) (hother : Printable other)
    (h : writeString false ⟨true, n + 2, n + 2⟩ key.toList ++ (newline n ++ ':' :: r) =
      writeString false ⟨true, n + 2, n + 2⟩ other.toList ++ (newline n ++ ':' :: s)) : key = other ∧
        r = s := by
  have hstops (rest : List Char) : Stops (n + 2) (newline n ++ ':' :: rest) :=
    (Ends.next rest (Nat.lt_add_of_pos_right (by decide)) (by decide) : Ends (n + 2) _).stops (Nat.le_refl _)
      (Nat.succ_pos _)
  have hread {name : String} (hname : Printable name) (rest : List Char) :=
    (spells_writeString hname false ⟨true, n + 2, n + 2⟩ fun _ => rfl).read_eq (hstops rest)
  have hkeys := hread hkey r
  rw [h, hread hother s] at hkeys
  obtain ⟨htoken, hrest⟩ := Prod.mk.inj hkeys
  exact ⟨(String.toList_inj.mp (congrArg Token.content htoken)).symm,
    (List.cons.inj (List.append_cancel_left hrest)).2.symm⟩

lemma entry_unique (hkey : Printable key) (hother : Printable other) (ha : Determined a) (hb : Legible b)
    (hr : (Place.afterKey n 0).Ends r) (hs : (Place.afterKey n 0).Ends s)
    (h : entryText n key a ++ r = entryText n other b ++ s) : key = other ∧ a = b ∧ r = s := by
  have hmark (name : String) (value : Data) (rest : List Char) (hlong : ¬ isSimpleKey name.toList) :
      Token.Marked (entryText n name value ++ rest) :=
      ⟨'?', _, congrArg (· ++ rest) (entryText_of_long hlong n value), .inr rfl⟩
  -- the two forms of a key are told by the mark of a long one, which starts no scalar
  by_cases hsimple : isSimpleKey key.toList
  · by_cases hsimple' : isSimpleKey other.toList
    · have hread := read_entryText hkey hsimple n n a r
      rw [h, read_entryText hother hsimple' n n b s] at hread
      obtain ⟨htoken, hvalue⟩ := Prod.mk.inj hread
      obtain rfl := String.toList_inj.mp (congrArg Token.content htoken)
      obtain ⟨hab, hrs⟩ := ha _ b r s hb (hr.afterKey _) (hs.afterKey _) (List.cons.inj hvalue).2.symm
      exact ⟨rfl, hab, hrs⟩
    · have hmarked := hmark other b s hsimple'
      rw [← h, entryText_of_simple hsimple, List.append_assoc] at hmarked
      exact absurd hmarked ((spells_keyText hkey n n).not_marked _)
  · by_cases hsimple' : isSimpleKey other.toList
    · have hmarked := hmark key a r hsimple
      rw [h, entryText_of_simple hsimple', List.append_assoc] at hmarked
      exact absurd hmarked ((spells_keyText hother n n).not_marked _)
    · rw [entryText_of_long hsimple, entryText_of_long hsimple'] at h
      simp only [List.cons_append, List.append_assoc, List.cons.injEq, true_and] at h
      obtain ⟨hname, hvalue⟩ := longText_unique hkey hother h
      obtain ⟨hab, hrs⟩ := ha _ b r s hb (Place.ends_afterMark hr.line) (Place.ends_afterMark hs.line) hvalue
      exact ⟨hname, hab, hrs⟩

lemma ends_items (hr : (Place.afterKey n 0).Ends r) (xs : List Data) :
    (Place.afterMark n).Ends (items (newline n) n xs ++ r) := by
  refine Place.ends_afterMark ?_
  cases xs with
  | nil => exact hr.line
  | cons x xs =>
    rw [items_cons]
    exact .next _ (by omega) (by decide)

lemma items_ne_rest (hr : (Place.afterKey n 0).Ends r) (x : Data) (xs : List Data) (rest : List Char) :
    items (newline n) n (x :: xs) ++ rest ≠ r := by
  rintro rfl
  obtain ⟨t, ht⟩ := exists_node_afterMark n x
  refine hr.item ⟨t ++ (items (newline n) n xs ++ rest), ?_⟩
  rw [items_cons, ht, List.append_assoc]
  rfl

lemma items_unique {xs ys : List Data} (hxs : ∀ x ∈ xs, Determined x) (hys : ∀ y ∈ ys, Legible y)
    (hr : (Place.afterKey n 0).Ends r) (hs : (Place.afterKey n 0).Ends s)
    (h : items (newline n) n xs ++ r = items (newline n) n ys ++ s) : xs = ys ∧ r = s := by
  induction xs generalizing ys with
  | nil =>
    cases ys with
    | nil => exact ⟨rfl, h⟩
    | cons y ys => exact absurd h.symm (items_ne_rest hr y ys s)
  | cons x xs ih =>
    cases ys with
    | nil => exact absurd h (items_ne_rest hs x xs r)
    | cons y ys =>
      obtain ⟨hx, hxs⟩ := List.forall_mem_cons.mp hxs
      obtain ⟨hy, hys⟩ := List.forall_mem_cons.mp hys
      rw [items_cons, items_cons] at h
      have hnodes := (List.cons.inj (List.append_cancel_left h)).2
      obtain ⟨hxy, hrest⟩ := hx _ y _ _ hy (ends_items hr xs) (ends_items hs ys) hnodes
      obtain ⟨hrests, hrs⟩ := ih hxs hys hrest
      exact ⟨by rw [hxy, hrests], hrs⟩

lemma ends_entries {es : List (String × Data)} (hkeys : ∀ e ∈ es, Printable e.1) (hr : Ends n r) :
    (Place.afterKey n 0).Ends (entries (newline n) n es ++ r) := by
  cases es with
  | nil =>
    exact ⟨hr.mono (Nat.le_add_right n 2),
      fun ⟨more, hmore⟩ => hr.ne_newline (c := '-') (Nat.le_refl n) (by decide)
      (' ' :: more) (hmore.symm.trans (List.append_assoc _ _ _))⟩
  | cons e es =>
    have hkey := hkeys e List.mem_cons_self
    obtain ⟨c, t, ht, hc⟩ := head_entryText hkey n e.2
    rw [entries_cons]
    refine ⟨?_, fun ⟨more, hmore⟩ => ?_⟩
    · rw [ht]
      exact .next _ (Nat.lt_add_of_pos_right (by decide)) hc
    · rw [List.append_assoc] at hmore
      exact entryText_ne_item hkey n e.2 _ more (List.append_cancel_left hmore).symm

lemma entries_ne_rest (hr : Ends n r) {entry : String × Data} (hkey : Printable entry.1)
    (es : List (String × Data)) (rest : List Char) : entries (newline n) n (entry :: es) ++ rest ≠ r := by
  obtain ⟨c, t, ht, hc⟩ := head_entryText hkey n entry.2
  rw [entries_cons, ht]
  exact (hr.ne_newline (Nat.le_refl n) hc _).symm

lemma entries_unique {es fs : List (String × Data)} (hkeys : ∀ e ∈ es, Printable e.1)
    (hes : ∀ e ∈ es, Determined e.2)
    (hkeys' : ∀ f ∈ fs, Printable f.1) (hfs : ∀ f ∈ fs, Legible f.2) (hr : Ends n r) (hs : Ends n s)
    (h : entries (newline n) n es ++ r = entries (newline n) n fs ++ s) : es = fs ∧ r = s := by
  induction es generalizing fs with
  | nil =>
    cases fs with
    | nil => exact ⟨rfl, h⟩
    | cons f fs => exact absurd h.symm (entries_ne_rest hr (hkeys' f List.mem_cons_self) fs s)
  | cons e es ih =>
    cases fs with
    | nil => exact absurd h (entries_ne_rest hs (hkeys e List.mem_cons_self) es r)
    | cons f fs =>
      obtain ⟨hkey, hkeys⟩ := List.forall_mem_cons.mp hkeys
      obtain ⟨he, hes⟩ := List.forall_mem_cons.mp hes
      obtain ⟨hkey', hkeys'⟩ := List.forall_mem_cons.mp hkeys'
      obtain ⟨hf, hfs⟩ := List.forall_mem_cons.mp hfs
      rw [entries_cons, entries_cons] at h
      obtain ⟨hname, hvalue, hrest⟩ :=
        entry_unique hkey hkey' he hf (ends_entries hkeys hr) (ends_entries hkeys' hs)
        (List.append_cancel_left h)
      obtain ⟨hrests, hrs⟩ := ih hkeys hes hkeys' hfs hrest
      exact ⟨by rw [Prod.ext hname hvalue, hrests], hrs⟩

lemma Legible.scalar_or_block (h : Legible value) :
    (∃ token, Token.Of value token) ∨ (∃ x xs, value = .list (x :: xs)) ∨ ∃ e es, value = .map (e :: es) := by
  cases h with
  | null => exact .inl ⟨_, .word .null⟩
  | bool b =>
    cases b with
    | true => exact .inl ⟨_, .word .ofTrue⟩
    | false => exact .inl ⟨_, .word .ofFalse⟩
  | int n => exact .inl ⟨_, .word (.int n)⟩
  | @string s => exact .inl ⟨_, .string s⟩
  | @list items =>
    cases items with
    | nil => exact .inl ⟨_, .word .list⟩
    | cons x xs => exact .inr (.inl ⟨x, xs, rfl⟩)
  | @map entries =>
    cases entries with
    | nil => exact .inl ⟨_, .word .map⟩
    | cons e es => exact .inr (.inr ⟨e, es, rfl⟩)

lemma token_ne_list (ha : Legible a) (htoken : Token.Of a token) (x : Data) (xs : List Data)
    (r s : List Char) :
    node place a ++ r ≠ node place (.list (x :: xs)) ++ s := by
  intro h
  obtain ⟨text, htext, hspells⟩ := htoken.exists_spells ha place
  obtain ⟨t, ht⟩ := exists_node_afterMark place.listIndent x
  rw [htext, node_list, items_cons, ht, List.append_assoc] at h
  exact hspells.not_marked r ⟨'-', _, eq_of_lead_eq_opening h, .inl rfl⟩

lemma token_ne_map (ha : Legible a) (htoken : Token.Of a token) (hr : Stops place.spot.indent r)
    (hcolon : r.head? ≠ some ':')
    {entry : String × Data} (hkey : Printable entry.1) (es : List (String × Data)) (s : List Char) :
    node place a ++ r ≠ node place (.map (entry :: es)) ++ s := by
  intro h
  obtain ⟨text, htext, hspells⟩ := htoken.exists_spells ha place
  rw [htext, node_map, entries_cons, List.append_assoc] at h
  exact entryText_ne_token hkey hspells hr hcolon _ _ _ (eq_of_lead_eq_opening h)

lemma list_ne_map (x : Data) (xs : List Data) (r : List Char) {entry : String × Data}
    (hkey : Printable entry.1) (es : List (String × Data)) (s : List Char) :
    node place (.list (x :: xs)) ++ r ≠ node place (.map (entry :: es)) ++ s := by
  intro h
  obtain ⟨c, t, ht, hc⟩ := head_entryText hkey place.mapIndent entry.2
  obtain ⟨u, hu⟩ := exists_node_afterMark place.listIndent x
  rw [node_list, node_map, items_cons, entries_cons, ht] at h
  have hline := eq_of_opening_eq_opening (by decide) hc h
  have hitem :=
    entryText_ne_item hkey place.mapIndent entry.2 (entries (newline place.mapIndent) place.mapIndent es ++ s)
    (u ++ (items (newline place.listIndent) place.listIndent xs ++ r))
  rw [ht] at hitem
  rw [hu] at hline
  exact hitem hline.symm

lemma eq_of_token (ha : Legible a) (htoken : Token.Of a token) (hb : Legible b)
    (hr : Stops place.spot.indent r) (hs : Stops place.spot.indent s) (hcolon : r.head? ≠ some ':')
    (h : node place a ++ r = node place b ++ s) :
    a = b ∧ r = s := by
  obtain ⟨other, hother⟩ | ⟨y, ys, rfl⟩ | ⟨f, fs, rfl⟩ := hb.scalar_or_block
  · obtain ⟨text, htext, hspells⟩ := htoken.exists_spells ha place
    obtain ⟨text', htext', hspells'⟩ := hother.exists_spells hb place
    rw [htext, htext', List.append_assoc, List.append_assoc] at h
    have hread := hspells.read_eq hr
    rw [List.append_cancel_left h, hspells'.read_eq hs] at hread
    obtain ⟨heq, hrs⟩ := Prod.mk.inj hread
    exact ⟨htoken.unique hother heq.symm, hrs.symm⟩
  · exact absurd h (token_ne_list ha htoken y ys r s)
  · cases hb with
    | map hkeys => exact absurd h (token_ne_map ha htoken hr hcolon (hkeys f List.mem_cons_self) fs s)

lemma determined_of_token (ha : Legible a) (htoken : Token.Of a token) : Determined a :=
  fun _ _ _ _ hb hr hs h => eq_of_token ha htoken hb hr.stops hs.stops hr.head_ne h

lemma determined_list {xs : List Data} (hlist : Legible (.list xs)) (hxs : ∀ x ∈ xs, Determined x) :
    Determined (.list xs) := by
  cases xs with
  | nil => exact determined_of_token hlist (.word .list)
  | cons x xs =>
    intro place b r s hb hr hs h
    obtain ⟨other, hother⟩ | ⟨y, ys, rfl⟩ | ⟨f, fs, rfl⟩ := hb.scalar_or_block
    · exact absurd h.symm (token_ne_list hb hother x xs s r)
    · cases hb with
      | list hys =>
        rw [node_list, node_list, items_cons, items_cons] at h
        have hitems : items (newline place.listIndent) place.listIndent (x :: xs) ++ r =
            items (newline place.listIndent) place.listIndent (y :: ys) ++ s := by
          rw [items_cons, items_cons, List.append_cancel_left h]
        obtain ⟨heq, hrs⟩ := items_unique hxs hys (hr.inner 0) (hs.inner 0) hitems
        exact ⟨congrArg Data.list heq, hrs⟩
    · cases hb with
      | map hkeys => exact absurd h (list_ne_map x xs r (hkeys f List.mem_cons_self) fs s)

lemma determined_map {es : List (String × Data)} (hmap : Legible (.map es)) (hkeys : ∀ e ∈ es, Printable e.1)
    (hes : ∀ e ∈ es, Determined e.2) : Determined (.map es) := by
  cases es with
  | nil => exact determined_of_token hmap (.word .map)
  | cons e es =>
    have hkey := hkeys e List.mem_cons_self
    intro place b r s hb hr hs h
    obtain ⟨other, hother⟩ | ⟨y, ys, rfl⟩ | ⟨f, fs, rfl⟩ := hb.scalar_or_block
    · exact absurd h.symm (token_ne_map hb hother hs.stops hs.head_ne hkey es r)
    · exact absurd h.symm (list_ne_map y ys s hkey es r)
    · cases hb with
      | map hkeys' hfs =>
        rw [node_map, node_map, entries_cons, entries_cons] at h
        have hentries : entries (newline place.mapIndent) place.mapIndent (e :: es) ++ r =
            entries (newline place.mapIndent) place.mapIndent (f :: fs) ++ s := by
          rw [entries_cons, entries_cons, List.append_cancel_left h]
        obtain ⟨heq, hrs⟩ := entries_unique hkeys hes hkeys' hfs hr.line hs.line hentries
        exact ⟨congrArg Data.map heq, hrs⟩

theorem Legible.determined (h : Legible value) : Determined value := by
  induction h with
  | null => exact determined_of_token .null (.word .null)
  | bool b =>
    cases b with
    | true => exact determined_of_token (.bool true) (.word .ofTrue)
    | false => exact determined_of_token (.bool false) (.word .ofFalse)
  | int n => exact determined_of_token (.int n) (.word (.int n))
  | string hs => exact determined_of_token (.string hs) (.string _)
  | list hitems ih => exact determined_list (.list hitems) ih
  | map hkeys hvalues ih => exact determined_map (.map hkeys hvalues) hkeys ih

lemma stops_ending (marked : Bool) :
    Stops Place.start.spot.indent ('\n' :: if marked then "...\n".toList else []) := by
  cases marked <;> exact .line (by decide)

lemma ends_start : Place.start.Ends ['\n'] := ⟨.last, by decide⟩

theorem Legible.eq_of_dump (ha : Legible a) (hb : Legible b) (h : dump a = dump b) : a = b := by
  have htext : node .start a ++ '\n' :: (if leavesOpen a then "...\n".toList else []) =
      node .start b ++ '\n' :: (if leavesOpen b then "...\n".toList else []) := String.ofList_inj.mp h
  obtain ⟨token, htoken⟩ | hblock := ha.scalar_or_block
  · exact (eq_of_token ha htoken hb (stops_ending _) (stops_ending _) (by simp) htext).1
  obtain ⟨token, htoken⟩ | hblock' := hb.scalar_or_block
  · exact (eq_of_token hb htoken ha (stops_ending _) (stops_ending _) (by simp) htext.symm).1.symm
  have hclosed {value : Data} (hvalue : (∃ x xs, value = .list (x :: xs)) ∨ ∃ e es, value = .map (e :: es)) :
      leavesOpen value = false := by
    rcases hvalue with ⟨x, xs, rfl⟩ | ⟨e, es, rfl⟩ <;> rfl
  -- only here is the end of both texts a plain line feed, which may follow any node
  rw [hclosed hblock, hclosed hblock'] at htext
  exact (ha.determined .start b _ _ hb ends_start ends_start htext).1

end ApiScaffold.Yaml

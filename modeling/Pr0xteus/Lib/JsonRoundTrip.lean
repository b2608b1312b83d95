import Pr0xteus.Lib.JsonText

/-!
# Reading back what was written

`json.Unmarshal` of what `json.Marshal` or an encoder wrote is the value that was written. Every value is
read up to what follows it, which is a comma, a closing bracket or the end of a line.
-/

namespace Json

open Encoding

variable {c : Char} {d : Doc} {items : List Doc} {members : List (String × Doc)} {room : Nat}

section Values

variable {layout : Layout} {level depth : Nat} {space s rest : List Char}

def Blank (space : List Char) : Prop := ∀ c ∈ space, isSpace c = true

theorem blank_nil : Blank [] := fun _ hc => absurd hc List.not_mem_nil

theorem Layout.blank_newline (layout : Layout) (level : Nat) : Blank (layout.newline level) := by
  cases layout with
  | compact => exact blank_nil
  | indented =>
      intro c hc
      rcases List.mem_cons.mp hc with rfl | hc
      · rfl
      · rw [List.eq_of_mem_replicate hc]
        rfl

theorem skipSpace_append (h : Blank space) (s : List Char) :
    skipSpace (space ++ s) = skipSpace s := List.dropWhile_append_of_pos h

theorem skipSpace_cons (h : isSpace c = false) (s : List Char) :
    skipSpace (c :: s) = c :: s := List.dropWhile_cons_of_neg (by simp [h])

theorem scanValue_append (h : Blank space) (depth : Nat) (s : List Char) :
    scanValue depth (space ++ s) = scanValue depth s := by
  rw [scanValue.eq_def, scanValue.eq_def depth s]
  dsimp only
  rw [skipSpace_append h]

/-- The beginning of a number is no blank and begins no other value. -/
theorem ne_of_number {c d : Char} (hc : c = '-' ∨ c.isDigit = true) (hdash : (d == '-') = false)
    (hdigit : d.isDigit = false) : c ≠ d := by
  rintro rfl
  rcases hc with rfl | hc
  · cases hdash
  · exact absurd (hc.symm.trans hdigit) (by decide)

theorem isSpace_number (hc : c = '-' ∨ c.isDigit = true) : isSpace c = false := by
  simp only [isSpace, Bool.or_eq_false_iff, beq_eq_false_iff_ne]
  exact ⟨⟨⟨ne_of_number hc rfl rfl, ne_of_number hc rfl rfl⟩, ne_of_number hc rfl rfl⟩,
    ne_of_number hc rfl rfl⟩

theorem scanValue_number (hc : c = '-' ∨ c.isDigit = true) :
    scanValue depth (c :: s) = (scanNumber (c :: s)).map fun read => (.number read.1, read.2) := by
  rw [scanValue.eq_def]
  dsimp only
  rw [skipSpace_cons (isSpace_number hc)]
  split
  · next heq => exact absurd (List.cons.inj heq).1 (ne_of_number hc rfl rfl)
  · next heq => exact absurd (List.cons.inj heq).1 (ne_of_number hc rfl rfl)
  · next heq => exact absurd (List.cons.inj heq).1 (ne_of_number hc rfl rfl)
  · next heq => exact absurd (List.cons.inj heq).1 (ne_of_number hc rfl rfl)
  · next heq => exact absurd (List.cons.inj heq).1 (ne_of_number hc rfl rfl)
  · next heq => exact absurd (List.cons.inj heq).1 (ne_of_number hc rfl rfl)
  · rfl

/-- What a value begins with. -/
theorem render_head (layout : Layout) (level : Nat) (d : Doc) :
    ∃ c s, render layout level d = c :: s ∧ isSpace c = false ∧ c ≠ ']' ∧ c ≠ '\x7d' := by
  match d with
  | .null | .bool true | .bool false | .string _ | .array [] | .array (_ :: _) | .object []
  | .object (_ :: _) => exact ⟨_, _, rfl, by decide, by decide, by decide⟩
  | .number n =>
      obtain ⟨c, s, htext, hc⟩ := n.head
      exact ⟨c, s, htext, isSpace_number hc, ne_of_number hc rfl rfl, ne_of_number hc rfl rfl⟩

theorem scanValue_string (s : List UInt8) (rest : List Char) :
    scanValue depth (quoted s ++ rest) = some (.string (Utf8.chars s), rest) := by
  rw [quoted, List.append_assoc, List.cons_append, List.singleton_append, scanValue.eq_def]
  dsimp only
  rw [skipSpace_cons (by decide)]
  simp only [scanString_quoted, Option.map_some]

/-- A text that begins with a value, where it might end with a bracket. -/
def Begins (close : Char) (s : List Char) : Prop :=
  ∃ c s', s = c :: s' ∧ isSpace c = false ∧ c ≠ close

theorem Begins.skipSpace {close : Char} (h : Begins close s) (hblank : Blank space) :
    skipSpace (space ++ s) = s := by
  obtain ⟨c, s', rfl, hspace, -⟩ := h
  rw [skipSpace_append hblank, skipSpace_cons hspace]

theorem begins_render (layout : Layout) (level : Nat) (d : Doc) (rest : List Char) :
    Begins ']' (render layout level d ++ rest) := by
  obtain ⟨c, s, hrender, hspace, hclose, -⟩ := render_head layout level d
  exact ⟨c, s ++ rest, by rw [hrender, List.cons_append], hspace, hclose⟩

theorem begins_quoted (s : List UInt8) (rest : List Char) : Begins '\x7d' (quoted s ++ rest) :=
  ⟨_, _, rfl, rfl, by decide⟩

theorem scanValue_array (hs : Begins ']' s) (hblank : Blank space) :
    scanValue (depth + 1) ('[' :: (space ++ s)) =
      (scanItems (scanValue depth) s.length s).map fun read => (.array read.1, read.2) := by
  rw [scanValue.eq_def]
  dsimp only
  rw [skipSpace_cons (by decide)]
  simp only [hs.skipSpace hblank]
  split
  · obtain ⟨c, s', heq, -, hne⟩ := hs
    exact absurd (List.cons.inj heq).1.symm hne
  · rfl

theorem scanValue_object (hs : Begins '\x7d' s) (hblank : Blank space) :
    scanValue (depth + 1) ('\x7b' :: (space ++ s)) =
      (scanMembers (scanValue depth) s.length s).map fun read => (.object read.1, read.2) := by
  rw [scanValue.eq_def]
  dsimp only
  rw [skipSpace_cons (by decide)]
  simp only [hs.skipSpace hblank]
  split
  · obtain ⟨c, s', heq, -, hne⟩ := hs
    exact absurd (List.cons.inj heq).1.symm hne
  · rfl

theorem delimited_closing (layout : Layout) (level : Nat) {c : Char}
    (hc : c ∈ [',', ']', '\x7d', '\n']) (rest : List Char) :
    Delimited (layout.newline level ++ c :: rest) := by
  intro d hd
  cases layout with
  | compact =>
      obtain rfl : c = d := by simpa [Layout.newline] using hd
      exact hc
  | indented =>
      obtain rfl : '\n' = d := by simpa [Layout.newline] using hd
      decide

theorem delimited_comma (s : List Char) : Delimited (',' :: s) := by
  intro d hd
  obtain rfl : ',' = d := by simpa using hd
  decide

theorem delimited_newline : Delimited ['\n'] := by
  intro d hd
  obtain rfl : '\n' = d := by simpa using hd
  decide

theorem renderItems_append (items : List Doc) (closing rest : List Char) :
    renderItems layout level items closing ++ rest =
      renderItems layout level items (closing ++ rest) := by
  induction items with
  | nil => rfl
  | cons item items ih => simp only [renderItems, List.cons_append, List.append_assoc, ih]

theorem renderMembers_append (members : List (String × Doc)) (closing rest : List Char) :
    renderMembers layout level members closing ++ rest =
      renderMembers layout level members (closing ++ rest) := by
  induction members with
  | nil => rfl
  | cons member members ih => simp only [renderMembers, List.cons_append, List.append_assoc, ih]

theorem length_le_renderItems (layout : Layout) (level : Nat) (items : List Doc)
    (closing : List Char) :
    items.length ≤ (renderItems layout level items closing).length := by
  induction items with
  | nil => exact Nat.zero_le _
  | cons item items ih =>
      simp only [renderItems, List.length_cons, List.length_append]
      omega

theorem length_le_renderMembers (layout : Layout) (level : Nat) (members : List (String × Doc))
    (closing : List Char) :
    members.length ≤ (renderMembers layout level members closing).length := by
  induction members with
  | nil => exact Nat.zero_le _
  | cons member members ih =>
      simp only [renderMembers, List.length_cons, List.length_append]
      omega

/-- One item, and what is read behind it. -/
theorem scanItems_cons {value : Scan Value} {item : Value} {items : List Value}
    {closing : List Char} (hvalue : value s = some (item, closing))
    (hclosing : (∃ s', skipSpace closing = ',' :: s' ∧ scanItems value room s' = some (items, rest)) ∨
      (skipSpace closing = ']' :: rest ∧ items = []) ) :
    scanItems value (room + 1) s = some (item :: items, rest) := by
  rw [scanItems, hvalue]
  simp only [Option.bind_eq_bind, Option.bind_some]
  rcases hclosing with ⟨s', hskip, hitems⟩ | ⟨hskip, rfl⟩
  · simp only [hskip, hitems, Option.bind_some]
  · simp only [hskip]

theorem scanMembers_cons {value : Scan Value} {key : List UInt8} {item : Value} {members : Members}
    {gap closing : List Char} (hgap : layout.colon = ':' :: gap) (hblank : Blank space)
    (hvalue : value (gap ++ s) = some (item, closing)) (hclosing :
      (∃ s', skipSpace closing = ',' :: s' ∧ scanMembers value room s' = some (members, rest)) ∨
        (skipSpace closing = '\x7d' :: rest ∧ members = [])) :
    scanMembers value (room + 1) (space ++ (quoted key ++ (layout.colon ++ s))) =
      some ((Utf8.chars key, item) :: members, rest) := by
  have hkey : skipSpace (space ++ (quoted key ++ (layout.colon ++ s))) =
      '"' :: ((Utf8.runes key).flatMap escapeRune ++ '"' :: (layout.colon ++ s)) := by
    rw [(begins_quoted key _).skipSpace hblank, quoted, List.append_assoc, List.cons_append,
      List.singleton_append]
  rw [scanMembers, hkey]
  simp only [scanString_quoted, Option.bind_eq_bind, Option.bind_some, hgap, List.cons_append,
    skipSpace_cons (c := ':') (by decide), hvalue]
  rcases hclosing with ⟨s', hskip, hmembers⟩ | ⟨hskip, rfl⟩
  · simp only [hskip, hmembers, Option.bind_some]
  · simp only [hskip]

theorem skipSpace_closing (layout : Layout) (level : Nat) (hc : isSpace c = false)
    (rest : List Char) : skipSpace (layout.newline level ++ c :: rest) = c :: rest := by
  rw [skipSpace_append (layout.blank_newline level), skipSpace_cons hc]

theorem delimited_renderItems (items : List Doc) (level' : Nat) (rest : List Char) :
    Delimited (renderItems layout level items (layout.newline level' ++ ']' :: rest)) := by
  cases items with
  | nil => exact delimited_closing layout level' (by decide) rest
  | cons item items => exact delimited_comma _

theorem delimited_renderMembers (members : List (String × Doc)) (level' : Nat) (rest : List Char) :
    Delimited (renderMembers layout level members (layout.newline level' ++ '\x7d' :: rest)) := by
  cases members with
  | nil => exact delimited_closing layout level' (by decide) rest
  | cons member members => exact delimited_comma _

theorem Layout.colon_eq (layout : Layout) : ∃ gap, layout.colon = ':' :: gap ∧ Blank gap := by
  cases layout with
  | compact => exact ⟨[], rfl, blank_nil⟩
  | indented =>
      refine ⟨[' '], rfl, fun c hc => ?_⟩
      rw [List.mem_singleton.mp hc]
      rfl

/-- Items are read back where each of them is. -/
theorem scanItems_render {room level' : Nat} (hitems : ∀ d ∈ items, ∀ rest, Delimited rest →
      scanValue depth (render layout level d ++ rest) = some (d.value, rest))
    (hroom : items.length ≤ room) (hblank : Blank space) (hne : items ≠ [])
    (hs : renderItems layout level items (layout.newline level' ++ ']' :: rest) =
      ',' :: (layout.newline level ++ s)) :
    scanItems (scanValue depth) room (space ++ s) = some (values items, rest) := by
  induction items generalizing room space s with
  | nil => exact absurd rfl hne
  | cons item items ih =>
      obtain ⟨room, rfl⟩ : ∃ n, room = n + 1 :=
        Nat.exists_eq_add_of_le' (Nat.le_trans (Nat.le_add_left 1 items.length) hroom)
      obtain rfl := List.append_cancel_left (List.cons.inj hs).2
      refine scanItems_cons (by
        rw [scanValue_append hblank]
        exact hitems item List.mem_cons_self _ (delimited_renderItems items level' rest)) ?_
      cases items with
      | nil => exact .inr ⟨skipSpace_closing layout level' (by decide) rest, rfl⟩
      | cons next items =>
          refine .inl ⟨_, skipSpace_cons (by decide) _, ih (fun d hd => hitems d (.tail _ hd))
            (Nat.le_of_succ_le_succ hroom) (layout.blank_newline level) (List.cons_ne_nil _ _) rfl⟩

theorem scanMembers_render {room level' : Nat}
    (hmembers : ∀ member ∈ members, ∀ rest, Delimited rest →
      scanValue depth (render layout level member.2 ++ rest) = some (member.2.value, rest))
    (hroom : members.length ≤ room) (hblank : Blank space) (hne : members ≠ [])
    (hs : renderMembers layout level members (layout.newline level' ++ '\x7d' :: rest) =
      ',' :: (layout.newline level ++ s)) :
    scanMembers (scanValue depth) room (space ++ s) = some (memberValues members, rest) := by
  induction members generalizing room space s with
  | nil => exact absurd rfl hne
  | cons member members ih =>
      obtain ⟨key, d⟩ := member
      obtain ⟨gap, hcolon, hgap⟩ := layout.colon_eq
      obtain ⟨room, rfl⟩ : ∃ n, room = n + 1 :=
        Nat.exists_eq_add_of_le' (Nat.le_trans (Nat.le_add_left 1 members.length) hroom)
      obtain rfl := List.append_cancel_left (List.cons.inj hs).2
      rw [memberValues, ← Utf8.chars_string key]
      refine scanMembers_cons hcolon hblank (by
        rw [scanValue_append hgap]
        exact hmembers (key, d) List.mem_cons_self _ (delimited_renderMembers members level' rest)) ?_
      cases members with
      | nil => exact .inr ⟨skipSpace_closing layout level' (by decide) rest, rfl⟩
      | cons next members =>
          refine .inl ⟨_, skipSpace_cons (by decide) _, ih (fun d hd => hmembers d (.tail _ hd))
            (Nat.le_of_succ_le_succ hroom) (layout.blank_newline level) (List.cons_ne_nil _ _) rfl⟩

theorem nesting_le_of_mem_items (hd : d ∈ items) : d.nesting ≤ nestingItems items := by
  induction items with
  | nil => cases hd
  | cons item items ih =>
      rw [nestingItems]
      rcases List.mem_cons.mp hd with rfl | hd
      · exact Nat.le_max_left _ _
      · exact Nat.le_trans (ih hd) (Nat.le_max_right _ _)

theorem nesting_le_of_mem_members {member : String × Doc} (h : member ∈ members) :
    member.2.nesting ≤ nestingMembers members := by
  induction members with
  | nil => cases h
  | cons first members ih =>
      rw [nestingMembers]
      rcases List.mem_cons.mp h with rfl | h
      · exact Nat.le_max_left _ _
      · exact Nat.le_trans (ih h) (Nat.le_max_right _ _)

theorem scanValue_scalar (hd : d.nesting = 0) (hrest : Delimited rest) :
    scanValue depth (render layout level d ++ rest) = some (d.value, rest) := by
  match d with
  | .null => rw [scanValue.eq_def]; rfl
  | .bool true => rw [scanValue.eq_def]; rfl
  | .bool false => rw [scanValue.eq_def]; rfl
  | .number n =>
      obtain ⟨c, s, htext, hc⟩ := n.head
      have hscan := n.scans rest hrest
      rw [render, Doc.value]
      rw [htext, List.cons_append] at hscan ⊢
      rw [scanValue_number hc, hscan, Option.map_some]
  | .string s => exact scanValue_string s rest
  | .array items => cases hd
  | .object members => cases hd

theorem scanValue_items (hitems : ∀ d ∈ items, ∀ rest, Delimited rest →
      scanValue depth (render layout (level + 1) d ++ rest) = some (d.value, rest)) :
    scanValue (depth + 1) (render layout level (.array items) ++ rest) =
      some (.array (values items), rest) := by
  cases items with
  | nil => rfl
  | cons item items =>
      let closing := layout.newline level ++ ']' :: rest
      have hbegins := begins_render layout (level + 1) item
        (renderItems layout (level + 1) items closing)
      have hroom : (item :: items).length ≤
          (render layout (level + 1) item ++ renderItems layout (level + 1) items closing).length := by
        have hlength := length_le_renderItems layout (level + 1) items closing
        obtain ⟨c, s, hrender, -⟩ := render_head layout (level + 1) item
        rw [hrender, List.length_append, List.length_cons, List.length_cons]
        omega
      rw [render, List.cons_append, List.append_assoc, List.append_assoc, renderItems_append,
        List.append_assoc, List.singleton_append, scanValue_array hbegins (layout.blank_newline _)]
      exact congrArg _ (scanItems_render hitems hroom blank_nil (List.cons_ne_nil _ _) rfl)

theorem scanValue_members (hmembers : ∀ member ∈ members, ∀ rest, Delimited rest →
      scanValue depth (render layout (level + 1) member.2 ++ rest) = some (member.2.value, rest)) :
    scanValue (depth + 1) (render layout level (.object members) ++ rest) =
      some (.object (memberValues members), rest) := by
  cases members with
  | nil => rfl
  | cons member members =>
      obtain ⟨key, d⟩ := member
      let closing := layout.newline level ++ '\x7d' :: rest
      let text := layout.colon ++
        (render layout (level + 1) d ++ renderMembers layout (level + 1) members closing)
      have hroom : ((key, d) :: members).length ≤ (quoted (utf8 key) ++ text).length := by
        have hlength := length_le_renderMembers layout (level + 1) members closing
        simp only [text, quoted, List.length_append, List.length_cons]
        omega
      rw [render, List.cons_append, List.append_assoc, List.append_assoc, List.append_assoc,
        List.append_assoc, renderMembers_append, List.append_assoc, List.singleton_append,
        scanValue_object (begins_quoted _ _) (layout.blank_newline _)]
      exact congrArg _ (scanMembers_render hmembers hroom blank_nil (List.cons_ne_nil _ _) rfl)

/-- A value is read back from its text. -/
theorem scanValue_render (layout : Layout) (hdepth : d.nesting ≤ depth) (level : Nat)
    (hrest : Delimited rest) :
    scanValue depth (render layout level d ++ rest) = some (d.value, rest) := by
  -- A container takes one from the depth, and what is in it is read with the rest.
  induction depth generalizing d level rest with
  | zero => exact scanValue_scalar (Nat.le_zero.mp hdepth) hrest
  | succ depth ih =>
      match d with
      | .null | .bool _ | .number _ | .string _ => exact scanValue_scalar rfl hrest
      | .array items =>
          have hitems : nestingItems items ≤ depth := Nat.le_of_succ_le_succ hdepth
          exact scanValue_items fun d hd _ hrest =>
            ih (Nat.le_trans (nesting_le_of_mem_items hd) hitems) _ hrest
      | .object members =>
          have hmembers : nestingMembers members ≤ depth := Nat.le_of_succ_le_succ hdepth
          exact scanValue_members fun member hmember _ hrest =>
            ih (Nat.le_trans (nesting_le_of_mem_members hmember) hmembers) _ hrest

/-- `json.Unmarshal` of what `json.Marshal` wrote. -/
theorem parse_marshal (h : d.nesting ≤ maxNestingDepth) : parse (marshal d) = some d.value := by
  have hscan := scanValue_render .compact h 0 delimited_nil
  rw [List.append_nil] at hscan
  rw [parse, marshal, Utf8.chars_utf8, hscan]
  rfl

/-- `json.Unmarshal` of what an encoder wrote. -/
theorem parse_encode (layout : Layout) (h : d.nesting ≤ maxNestingDepth) :
    parse (encode layout d) = some d.value := by
  rw [parse, encode, Utf8.chars_utf8, scanValue_render layout h 0 delimited_newline]
  rfl

end Values

end Json

import Pr0xteus.Lib.Url

/-!
# Reading back what was escaped

The host of a printed URL, read back. Escaping leaves the delimiters of a host alone and introduces
none, so the parser finds the same parts; each byte is then read back or refused by itself.
-/

namespace Encoding

open Bytes Net

variable {b : UInt8} {mode : EscapeMode} {s : List UInt8}

section Escaped

/-- The bytes that stand for a byte of a host. -/
def escaped (mode : EscapeMode) (b : UInt8) : List UInt8 := (escapeByte mode b).map Char.toUInt8

def escapeBytes (mode : EscapeMode) (s : List UInt8) : List UInt8 := s.flatMap (escaped mode)

theorem ascii_of_not_shouldEscape (h : shouldEscape mode b = false) : b.toNat < 128 := by
  revert h b
  apply forall_byte
  cases mode <;> decide +kernel

theorem ascii_hexDigit : ∀ n < 16, (hexDigit n).toNat < 128 := by decide

theorem ascii_escapeByte (mode : EscapeMode) (b : UInt8) :
    ∀ c ∈ escapeByte mode b, c.toNat < 128 := by
  intro c hc
  unfold escapeByte at hc
  split at hc
  · have hb := b.toNat_lt
    rw [List.mem_cons, List.mem_pair] at hc
    rcases hc with rfl | rfl | rfl
    · decide
    · exact ascii_hexDigit _ (by omega)
    · exact ascii_hexDigit _ (by omega)
  · next hraw =>
      rw [List.mem_singleton.mp hc, (char_of_byte b).1]
      exact ascii_of_not_shouldEscape (by simpa using hraw)

theorem utf8_escape (mode : EscapeMode) (s : String) :
    utf8 (escape mode s) = escapeBytes mode (utf8 s) := by
  rw [escape, utf8_ofList_ascii, List.map_flatMap]
  · rfl
  · intro c hc
    obtain ⟨b, -, hb⟩ := List.mem_flatMap.mp hc
    exact ascii_escapeByte mode b c hb

def highDigit (b : UInt8) : UInt8 := (hexDigit (b.toNat / 16)).toUInt8

def lowDigit (b : UInt8) : UInt8 := (hexDigit (b.toNat % 16)).toUInt8

theorem escaped_of_shouldEscape (h : shouldEscape mode b = true) :
    escaped mode b = ['%'.toUInt8, highDigit b, lowDigit b] := by
  rw [escaped, escapeByte, if_pos h]
  rfl

theorem escaped_of_not_shouldEscape (h : shouldEscape mode b = false) : escaped mode b = [b] := by
  simp [escaped, escapeByte, h, (char_of_byte b).2]

theorem unhex_digits (b : UInt8) :
    (isHex (highDigit b) && isHex (lowDigit b)) = true ∧
      UInt8.ofNat (16 * unhex (highDigit b) + unhex (lowDigit b)) = b ∧
      (8 ≤ unhex (highDigit b) ↔ 0x80 ≤ b) := by
  revert b
  apply forall_byte
  decide +kernel

theorem shouldEscape_percent : shouldEscape .host '%'.toUInt8 = true := by decide

/-- The bytes of a host that can be read back. -/
def hostByte (b : UInt8) : Bool := 0x80 ≤ b || b = '%'.toUInt8 || !shouldEscape .host b

/-- The bytes of a zone that can be read back. -/
def zoneByte (b : UInt8) : Bool := b = '%'.toUInt8 || b = ' '.toUInt8 || !shouldEscape .host b

theorem unescape_raw {mode : UnescapeMode} (h : b ≠ '%'.toUInt8) :
    unescape mode (b :: s) = if mode.allowsRaw b then (unescape mode s).map (b :: ·) else none := by
  rw [unescape.eq_def]
  exact if_neg h

/-- How one escaped byte is read back in a part that allows some bytes. -/
theorem unescape_escaped {mode : UnescapeMode} {allowed : UInt8 → Bool}
    (hraw : ∀ b, shouldEscape .host b = false → mode.allowsRaw b = true ∧ allowed b = true)
    (hescape : ∀ b, shouldEscape .host b = true → mode.allowsEscape (highDigit b) b = allowed b)
    (b : UInt8) (s : List UInt8) :
    unescape mode (escaped .host b ++ s) =
      if allowed b then (unescape mode s).map (b :: ·) else none := by
  obtain ⟨hhex, hvalue, -⟩ := unhex_digits b
  by_cases h : shouldEscape .host b = true
  · rw [escaped_of_shouldEscape h]
    simp [unescape, hhex, hvalue, hescape b h]
  · have h : shouldEscape .host b = false := by simpa using h
    have hne : b ≠ '%'.toUInt8 := by
      rintro rfl
      rw [shouldEscape_percent] at h
      cases h
    obtain ⟨hallows, hallowed⟩ := hraw b h
    rw [escaped_of_not_shouldEscape h, List.singleton_append, unescape_raw hne, if_pos hallows,
      if_pos hallowed]

theorem unescape_escapeBytes {mode : UnescapeMode} {allowed : UInt8 → Bool}
    (hone : ∀ b s, unescape mode (escaped .host b ++ s) =
      if allowed b then (unescape mode s).map (b :: ·) else none) (s : List UInt8) :
    unescape mode (escapeBytes .host s) = if s.all allowed then some s else none := by
  induction s with
  | nil => rfl
  | cons b s ih =>
      rw [escapeBytes, List.flatMap_cons, ← escapeBytes, hone, ih, List.all_cons]
      cases allowed b <;> cases s.all allowed <;> rfl

theorem unescape_host (s : List UInt8) :
    unescape .host (escapeBytes .host s) = if s.all hostByte then some s else none := by
  refine unescape_escapeBytes (unescape_escaped (fun b h => ?_) fun b h => ?_) s
  · simp [UnescapeMode.allowsRaw, hostByte, h]
  · simp [UnescapeMode.allowsEscape, hostByte, h, (unhex_digits b).2.2]

theorem unescape_zone (s : List UInt8) :
    unescape .zone (escapeBytes .host s) = if s.all zoneByte then some s else none := by
  refine unescape_escapeBytes (unescape_escaped (fun b h => ?_) fun b h => ?_) s
  · simp [UnescapeMode.allowsRaw, zoneByte, h]
  · simp [UnescapeMode.allowsEscape, zoneByte, h]

end Escaped

/-! Escaping keeps the delimiters of a host and introduces none. -/

section Delimiters

variable {c : UInt8} {s : List UInt8}

/-- The bytes an escape is made of. -/
def isEscapeByte (b : UInt8) : Bool :=
  b = '%'.toUInt8 || isDigit b || ('A'.toUInt8 ≤ b && b ≤ 'F'.toUInt8)

theorem isEscapeByte_digits (b : UInt8) :
    isEscapeByte (highDigit b) = true ∧ isEscapeByte (lowDigit b) = true := by
  revert b
  apply forall_byte
  decide +kernel

theorem mem_escaped (b : UInt8) :
    ∀ c ∈ escaped .host b, isEscapeByte c = true ∨ c = b ∧ shouldEscape .host b = false := by
  intro c hc
  cases hescape : shouldEscape .host b with
  | false =>
      rw [escaped_of_not_shouldEscape hescape, List.mem_singleton] at hc
      exact .inr ⟨hc, rfl⟩
  | true =>
      rw [escaped_of_shouldEscape hescape, List.mem_cons, List.mem_pair] at hc
      obtain ⟨hhigh, hlow⟩ := isEscapeByte_digits b
      rcases hc with rfl | rfl | rfl
      · exact .inl (by decide)
      · exact .inl hhigh
      · exact .inl hlow

theorem mem_escapeBytes (h : c ∈ escapeBytes .host s) :
    isEscapeByte c = true ∨ c ∈ s ∧ shouldEscape .host c = false := by
  obtain ⟨b, hb, hc⟩ := List.mem_flatMap.mp h
  obtain hescape | ⟨rfl, hraw⟩ := mem_escaped b c hc
  · exact .inl hescape
  · exact .inr ⟨hb, hraw⟩

theorem not_mem_escapeBytes (hescape : isEscapeByte c = false)
    (h : shouldEscape .host c = true ∨ c ∉ s) : c ∉ escapeBytes .host s := by
  intro hc
  obtain hc | ⟨hmem, hraw⟩ := mem_escapeBytes hc
  · rw [hescape] at hc
    cases hc
  · obtain h | h := h
    · rw [h] at hraw
      cases hraw
    · exact h hmem

theorem escapeBytes_append (mode : EscapeMode) (s t : List UInt8) :
    escapeBytes mode (s ++ t) = escapeBytes mode s ++ escapeBytes mode t :=
  List.flatMap_append

theorem escapeBytes_cons (h : shouldEscape mode b = false) (s : List UInt8) :
    escapeBytes mode (b :: s) = b :: escapeBytes mode s := by
  rw [escapeBytes, List.flatMap_cons, escaped_of_not_shouldEscape h]
  rfl

theorem escapeBytes_eq_self (h : ∀ b ∈ s, shouldEscape mode b = false) :
    escapeBytes mode s = s := by
  induction s with
  | nil => rfl
  | cons b s ih =>
      rw [escapeBytes_cons (h b List.mem_cons_self), ih fun d hd => h d (List.mem_cons_of_mem _ hd)]

theorem digits_of_percent (b : UInt8) : highDigit b ≠ '%'.toUInt8 ∧ lowDigit b ≠ '%'.toUInt8 ∧
    (highDigit b = '2'.toUInt8 → lowDigit b = '5'.toUInt8 → b = '%'.toUInt8) := by
  revert b
  apply forall_byte
  decide +kernel

theorem cutZone_cons (h : b ≠ '%'.toUInt8) (s : List UInt8) :
    cutZone (b :: s) = (b :: (cutZone s).1, (cutZone s).2) := by
  rw [cutZone, if_neg]
  intro htake
  exact h (List.cons.inj (List.take_succ_cons ▸ htake)).1

/-- The zone of a host begins at its first percent sign, escaped or not. -/
theorem cutZone_escapeBytes (s : List UInt8) :
    cutZone (escapeBytes .host s) = (escapeBytes .host (s.takeWhile (· ≠ '%'.toUInt8)),
      escapeBytes .host (s.dropWhile (· ≠ '%'.toUInt8))) := by
  induction s with
  | nil => rfl
  | cons b s ih =>
      by_cases hb : b = '%'.toUInt8
      · subst hb
        rw [List.takeWhile_cons_of_neg (by simp), List.dropWhile_cons_of_neg (by simp)]
        rfl
      · rw [List.takeWhile_cons_of_pos (by simpa using hb),
          List.dropWhile_cons_of_pos (by simpa using hb)]
        obtain ⟨hhigh, hlow, hpercent⟩ := digits_of_percent b
        simp only [escapeBytes, List.flatMap_cons]
        by_cases hescape : shouldEscape .host b = true
        · rw [escaped_of_shouldEscape hescape]
          have hne : ¬(highDigit b = '2'.toUInt8 ∧ lowDigit b = '5'.toUInt8) :=
            fun h => hb (hpercent h.1 h.2)
          simp only [List.cons_append, List.nil_append]
          rw [cutZone, if_neg (by simpa using hne), cutZone_cons hhigh, cutZone_cons hlow]
          simp only [escapeBytes] at ih
          rw [ih]
        · rw [escaped_of_not_shouldEscape (by simpa using hescape), List.singleton_append,
            cutZone_cons hb]
          simp only [escapeBytes] at ih
          rw [ih]
          rfl

end Delimiters

/-! The host of a URL, printed and read back. -/

section Host

variable {host port : List UInt8}

theorem shouldEscape_portByte (b : UInt8) (h : portByte b = true) :
    shouldEscape .host b = false ∧ b ≠ ':'.toUInt8 ∧ b ≠ '['.toUInt8 ∧ b ≠ ']'.toUInt8 := by
  revert h b
  apply forall_byte
  decide +kernel

theorem escapeBytes_port (h : ∀ b ∈ port, portByte b = true) : escapeBytes .host port = port :=
  escapeBytes_eq_self fun b hb => (shouldEscape_portByte b (h b hb)).1

theorem all_hostByte_port (h : ∀ b ∈ port, portByte b = true) : port.all hostByte = true := by
  refine List.all_eq_true.mpr fun b hb => ?_
  simp [hostByte, (shouldEscape_portByte b (h b hb)).1]

/-- A host in brackets that can be read back: an IPv6 address, with a zone of plain bytes. -/
def literalSafe (host : List UInt8) : Bool :=
  (host.takeWhile (· ≠ '%'.toUInt8)).all hostByte &&
    (host.dropWhile (· ≠ '%'.toUInt8)).all zoneByte &&
    ((parseAddr host).map fun addr => !addr.is4).getD false

theorem parseHost_plain (hcolon : ':'.toUInt8 ∉ host) (hbracket : '['.toUInt8 ∉ host)
    (hport : ∀ b ∈ port, portByte b = true) :
    parseHost (escapeBytes .host (host ++ ':'.toUInt8 :: port)) =
      if port.all isDigit && host.all hostByte then some (host ++ ':'.toUInt8 :: port) else none := by
  have hsplit : escapeBytes .host (host ++ ':'.toUInt8 :: port) =
      escapeBytes .host host ++ ':'.toUInt8 :: port := by
    rw [escapeBytes_append, escapeBytes_cons (by decide), escapeBytes_port hport]
  have hnone : '['.toUInt8 ∉ host ++ ':'.toUInt8 :: port := by
    rw [List.mem_append, List.mem_cons, not_or, not_or]
    exact ⟨hbracket, by decide, fun hb => (shouldEscape_portByte _ (hport _ hb)).2.2.1 rfl⟩
  have hcolon' : ':'.toUInt8 ∉ port := fun hb => (shouldEscape_portByte _ (hport _ hb)).2.1 rfl
  rw [parseHost, cutLast_eq_none_iff.mpr (not_mem_escapeBytes (by decide) (.inr hnone))]
  dsimp only
  rw [unescape_host, hsplit, cut_append (not_mem_escapeBytes (by decide) (.inr hcolon))]
  have hall : (host ++ ':'.toUInt8 :: port).all hostByte = host.all hostByte := by
    rw [List.all_append, List.all_cons, all_hostByte_port hport]
    simp [show hostByte ':'.toUInt8 = true by decide]
  dsimp only
  rw [hall]
  by_cases hdigits : port.all isDigit = true
  · rw [hdigits, if_neg (not_or.mpr ⟨hcolon', by decide⟩), Bool.true_and]
  · rw [Bool.not_eq_true] at hdigits
    rw [hdigits, if_pos (.inr rfl)]
    rfl

theorem parseLiteral_escapeBytes (hport : ∀ b ∈ port, portByte b = true) :
    parseLiteral (escapeBytes .host (host ++ ']'.toUInt8 :: ':'.toUInt8 :: port)) =
      if port.all isDigit && literalSafe host then
        some ('['.toUInt8 :: host ++ ']'.toUInt8 :: ':'.toUInt8 :: port)
      else none := by
  have hsplit : escapeBytes .host (host ++ ']'.toUInt8 :: ':'.toUInt8 :: port) =
      escapeBytes .host host ++ ']'.toUInt8 :: ':'.toUInt8 :: port := by
    rw [escapeBytes_append, escapeBytes_cons (by decide), escapeBytes_cons (by decide),
      escapeBytes_port hport]
  have hbracket : ']'.toUInt8 ∉ ':'.toUInt8 :: port := by
    rw [List.mem_cons, not_or]
    exact ⟨by decide, fun hb => (shouldEscape_portByte _ (hport _ hb)).2.2.2 rfl⟩
  have hcolonPort : unescape .host (':'.toUInt8 :: port) = some (':'.toUInt8 :: port) := by
    have hself : escapeBytes .host (':'.toUInt8 :: port) = ':'.toUInt8 :: port := by
      rw [escapeBytes_cons (by decide), escapeBytes_port hport]
    rw [← hself, unescape_host, hself, List.all_cons, all_hostByte_port hport]
    rfl
  have hparts : host.takeWhile (· ≠ '%'.toUInt8) ++ host.dropWhile (· ≠ '%'.toUInt8) = host :=
    List.takeWhile_append_dropWhile
  rw [parseLiteral, hsplit, cutLast_append hbracket, Option.bind_eq_bind, Option.bind_some]
  simp only [validOptionalPort, decide_true, Bool.true_and, cutZone_escapeBytes, hcolonPort,
    unescape_host, unescape_zone, Option.bind_eq_bind, Option.bind_some]
  by_cases hdigits : port.all isDigit = true
  · by_cases hliteral : (host.takeWhile (· ≠ '%'.toUInt8)).all hostByte = true
    · by_cases hzone : (host.dropWhile (· ≠ '%'.toUInt8)).all zoneByte = true
      · have hsafe : literalSafe host = ((parseAddr host).map fun addr => !addr.is4).getD false := by
          rw [literalSafe, hliteral, hzone, Bool.true_and, Bool.true_and]
        rw [if_pos hliteral, if_pos hzone, hsafe, hdigits, Option.bind_some, Option.bind_some, hparts]
        cases parseAddr host with
        | none => rfl
        | some addr => cases h : addr.is4 <;> simp [h]
      · have hsafe : literalSafe host = false := by simp only [literalSafe, hzone]; simp
        rw [if_pos hliteral, if_neg hzone, hsafe, hdigits]
        rfl
    · have hsafe : literalSafe host = false := by simp only [literalSafe, hliteral]; simp
      rw [if_neg hliteral, hsafe, hdigits]
      rfl
  · rw [Bool.not_eq_true] at hdigits
    rw [hdigits]
    rfl

theorem parseHost_bracketed (hbracket : '['.toUInt8 ∉ host)
    (hport : ∀ b ∈ port, portByte b = true) :
    parseHost (escapeBytes .host ('['.toUInt8 :: host ++ ']'.toUInt8 :: ':'.toUInt8 :: port)) =
      if port.all isDigit && literalSafe host then
        some ('['.toUInt8 :: host ++ ']'.toUInt8 :: ':'.toUInt8 :: port)
      else none := by
  have hrest : '['.toUInt8 ∉ host ++ ']'.toUInt8 :: ':'.toUInt8 :: port := by
    simp only [List.mem_append, List.mem_cons, not_or]
    exact ⟨hbracket, by decide, by decide,
      fun hb => (shouldEscape_portByte _ (hport _ hb)).2.2.1 rfl⟩
  rw [List.cons_append, escapeBytes_cons (by decide), parseHost]
  have hcut := cutLast_append (a := [])
    (not_mem_escapeBytes (by decide) (.inr hrest) : '['.toUInt8 ∉ escapeBytes .host _)
  rw [List.nil_append] at hcut
  rw [hcut]
  simpa using parseLiteral_escapeBytes hport

end Host

/-! A URL of a scheme, credentials without special bytes, and a host. -/

section Text

variable {scheme id secret addr : String} {user password : List UInt8}

def tokenByte (b : UInt8) : Bool :=
  isAlpha b || isDigit b || b = '-'.toUInt8 || b = '_'.toUInt8

/-- The bytes at which a URL is cut before its authority is read. -/
def isCut (b : UInt8) : Bool := ['/', '?', '#', '@'].any fun c => b = c.toUInt8

theorem plain_of_tokenByte (b : UInt8) (h : tokenByte b = true) :
    shouldEscape .userPassword b = false ∧ validUserinfo [b] = true ∧ b ≠ '%'.toUInt8 ∧
      b ≠ ':'.toUInt8 ∧ isCut b = false ∧ isControl b = false := by
  revert h b
  apply forall_byte
  decide +kernel

theorem plain_of_mem_escapeBytes (h : b ∈ escapeBytes .host s) :
    isCut b = false ∧ isControl b = false := by
  have hplain : ∀ b, isEscapeByte b = true ∨ shouldEscape .host b = false →
      isCut b = false ∧ isControl b = false := by
    apply forall_byte
    decide +kernel
  exact hplain b ((mem_escapeBytes h).imp_right And.right)

/-- What follows the scheme of the URL, after the slashes. -/
def authority (user password host : List UInt8) : List UInt8 :=
  user ++ ':'.toUInt8 :: password ++ '@'.toUInt8 :: host

theorem utf8_text (hscheme : scheme ≠ "") (hid : id ≠ "") (hidBytes : ∀ b ∈ utf8 id, tokenByte b = true)
    (hsecretBytes : ∀ b ∈ utf8 secret, tokenByte b = true) :
    utf8 (URL.mk scheme (some ⟨id, some secret⟩) addr).text =
      utf8 scheme ++ ':'.toUInt8 :: '/'.toUInt8 :: '/'.toUInt8 ::
        authority (utf8 id) (utf8 secret) (escapeBytes .host (utf8 addr)) := by
  have hplain : ∀ s : String, (∀ b ∈ utf8 s, tokenByte b = true) →
      utf8 (escape .userPassword s) = utf8 s := fun s hs => by
    rw [utf8_escape, escapeBytes_eq_self fun b hb => (plain_of_tokenByte b (hs b hb)).1]
  simp only [URL.text, Userinfo.text, hscheme, hid, reduceCtorEq, and_false, if_false, false_and,
    utf8_append, utf8_escape .host, hplain id hidBytes, hplain secret hsecretBytes, authority]
  simp only [List.append_assoc, List.cons_append]
  rfl

theorem unescape_of_not_mem (h : '%'.toUInt8 ∉ s) : unescape .userPassword s = some s := by
  induction s with
  | nil => rfl
  | cons b s ih =>
      obtain ⟨hb, hs⟩ := not_or.mp (mt List.mem_cons.mpr h)
      rw [unescape_raw (Ne.symm hb), ih hs]
      rfl

theorem parseUserinfo_token (huser : ∀ b ∈ user, tokenByte b = true)
    (hpassword : ∀ b ∈ password, tokenByte b = true) :
    parseUserinfo (user ++ ':'.toUInt8 :: password) = some ⟨user, some password⟩ := by
  have hvalid : validUserinfo (user ++ ':'.toUInt8 :: password) = true := by
    have hone : ∀ b, tokenByte b = true → validUserinfo [b] = true := fun b hb =>
      (plain_of_tokenByte b hb).2.1
    simp only [validUserinfo, List.all_cons, List.all_nil, Bool.and_true] at hone
    simp only [validUserinfo, List.all_append, List.all_cons, Bool.and_eq_true, List.all_eq_true]
    exact ⟨fun b hb => hone b (huser b hb), by decide, fun b hb => hone b (hpassword b hb)⟩
  have hcolon : ':'.toUInt8 ∉ user := fun h => (plain_of_tokenByte _ (huser _ h)).2.2.2.1 rfl
  have hpercent : ∀ s : List UInt8, (∀ b ∈ s, tokenByte b = true) → '%'.toUInt8 ∉ s :=
    fun s hs h => (plain_of_tokenByte _ (hs _ h)).2.2.1 rfl
  rw [parseUserinfo, hvalid, cut_append hcolon]
  simp [unescape_of_not_mem (hpercent user huser), unescape_of_not_mem (hpercent password hpassword)]

theorem not_isCut_of_mem_authority (huser : ∀ b ∈ user, tokenByte b = true)
    (hpassword : ∀ b ∈ password, tokenByte b = true)
    (h : b ∈ authority user password (escapeBytes .host s)) :
    (isCut b = false ∨ b = '@'.toUInt8) ∧ isControl b = false := by
  simp only [authority, List.mem_append, List.mem_cons] at h
  obtain (hb | rfl | hb) | rfl | hb := h
  · exact ⟨.inl (plain_of_tokenByte b (huser b hb)).2.2.2.2.1, (plain_of_tokenByte b (huser b hb)).2.2.2.2.2⟩
  · exact ⟨.inl (by decide), by decide⟩
  · exact ⟨.inl (plain_of_tokenByte b (hpassword b hb)).2.2.2.2.1,
      (plain_of_tokenByte b (hpassword b hb)).2.2.2.2.2⟩
  · exact ⟨.inr rfl, by decide⟩
  · exact ⟨.inl (plain_of_mem_escapeBytes hb).1, (plain_of_mem_escapeBytes hb).2⟩

/-- The credentials and the host of a URL, whatever its scheme. -/
theorem parseRest_authority (viaRequest : Bool) {scheme s : List UInt8} (hscheme : scheme ≠ [])
    (huser : ∀ b ∈ user, tokenByte b = true) (hpassword : ∀ b ∈ password, tokenByte b = true) :
    parseRest viaRequest scheme ('/'.toUInt8 :: '/'.toUInt8 ::
        authority user password (escapeBytes .host s)) =
      (parseHost (escapeBytes .host s)).map fun host =>
        { scheme := scheme, user := some ⟨user, some password⟩, host := host } := by
  have hmem : ∀ c : Char, isCut c.toUInt8 = true → c.toUInt8 ≠ '@'.toUInt8 →
      c.toUInt8 ∉ authority user password (escapeBytes .host s) := by
    intro c hcut hat hc
    obtain ⟨hnot | hat', -⟩ := not_isCut_of_mem_authority huser hpassword hc
    · rw [hcut] at hnot
      cases hnot
    · exact hat hat'
  have hquery : '?'.toUInt8 ∉ '/'.toUInt8 :: '/'.toUInt8 ::
      authority user password (escapeBytes .host s) := by
    simp only [List.mem_cons, not_or]
    exact ⟨by decide, by decide, hmem '?' (by decide) (by decide)⟩
  have hpath : cutPath (authority user password (escapeBytes .host s)) =
      (authority user password (escapeBytes .host s), []) := by
    rw [cutPath, cut_of_not_mem (hmem '/' (by decide) (by decide))]
  have hat : '@'.toUInt8 ∉ escapeBytes .host s := fun h => by
    have := (plain_of_mem_escapeBytes h).1
    revert this
    decide
  have hauthority : parseAuthority (authority user password (escapeBytes .host s)) =
      (parseHost (escapeBytes .host s)).map fun host => (some ⟨user, some password⟩, host) := by
    rw [parseAuthority, authority, cutLast_append hat]
    dsimp only
    rw [parseUserinfo_token huser hpassword]
    cases parseHost (escapeBytes .host s) <;> rfl
  rw [parseRest, cut_of_not_mem hquery]
  simp only [List.head?_cons, ne_eq, not_true_eq_false, if_false, List.take_succ_cons, List.take_zero,
    List.drop_succ_cons, List.drop_zero, hpath, hauthority, hscheme, not_false_eq_true, true_or,
    and_true]
  rw [if_pos (by rfl)]
  cases parseHost (escapeBytes .host s) <;> rfl

theorem getScheme_append {raw acc s rest : List UInt8} (hacc : acc ≠ [])
    (hs : ∀ b ∈ s, (isAlpha b || isDigit b || ['+', '-', '.'].any fun c => b = c.toUInt8) = true) :
    getScheme raw acc (s ++ ':'.toUInt8 :: rest) = some (acc ++ s, rest) := by
  induction s generalizing acc with
  | nil =>
      rw [List.nil_append, List.append_nil, getScheme, if_neg (by decide), if_neg (by decide),
        if_pos rfl, if_neg hacc]
  | cons b s ih =>
      have hb := hs b List.mem_cons_self
      have hnext := @ih (acc ++ [b]) (by simp) fun d hd => hs d (List.mem_cons_of_mem _ hd)
      rw [List.append_assoc] at hnext
      rw [List.cons_append, getScheme, hnext]
      cases halpha : isAlpha b with
      | true => rfl
      | false =>
          rw [halpha, Bool.false_or] at hb
          simp only [hb, hacc]
          rfl

/-- A scheme as it is read back: a small letter, then small letters and digits. -/
def isPlainScheme (s : List UInt8) : Bool :=
  s.head?.any isAlpha && s.all fun b => (isAlpha b || isDigit b) && lowerByte b = b

theorem plain_of_schemeByte (b : UInt8) (h : (isAlpha b || isDigit b) = true) :
    isCut b = false ∧ isControl b = false := by
  revert h b
  apply forall_byte
  decide +kernel

/-- A URL with such a scheme is read back with its own credentials, as far as its host is. -/
theorem parseURL_text (viaRequest : Bool) (addr : String)
    (hscheme : isPlainScheme (utf8 scheme) = true)
    (hid : id ≠ "") (hidBytes : ∀ b ∈ utf8 id, tokenByte b = true)
    (hsecretBytes : ∀ b ∈ utf8 secret, tokenByte b = true) :
    parseURL viaRequest (utf8 (URL.mk scheme (some ⟨id, some secret⟩) addr).text) =
        (parseHost (escapeBytes .host (utf8 addr))).map (fun host =>
          { scheme := utf8 scheme, user := some ⟨utf8 id, some (utf8 secret)⟩, host := host }) ∧
      '#'.toUInt8 ∉ utf8 (URL.mk scheme (some ⟨id, some secret⟩) addr).text := by
  have hne : scheme ≠ "" := by
    rintro rfl
    revert hscheme
    decide
  rw [utf8_text hne hid hidBytes hsecretBytes]
  simp only [isPlainScheme, Bool.and_eq_true, List.all_eq_true, decide_eq_true_eq] at hscheme
  obtain ⟨hhead, hbytes⟩ := hscheme
  have hlower : (utf8 scheme).map lowerByte = utf8 scheme :=
    (List.map_congr_left fun b hb => (hbytes b hb).2).trans (List.map_id _)
  -- no byte of the text is a control byte or begins a fragment
  have hplain : ∀ b ∈ utf8 scheme ++ ':'.toUInt8 :: '/'.toUInt8 :: '/'.toUInt8 ::
      authority (utf8 id) (utf8 secret) (escapeBytes .host (utf8 addr)),
      b ≠ '#'.toUInt8 ∧ isControl b = false := by
    intro b hb
    simp only [List.mem_append, List.mem_cons] at hb
    have hnot : isCut b = false → b ≠ '#'.toUInt8 := by
      rintro hcut rfl
      revert hcut
      decide
    obtain hb | rfl | rfl | rfl | hb := hb
    · exact (plain_of_schemeByte b (hbytes b hb).1).imp_left hnot
    · decide
    · decide
    · decide
    · obtain ⟨hcut | rfl, hcontrol⟩ := not_isCut_of_mem_authority hidBytes hsecretBytes hb
      · exact ⟨hnot hcut, hcontrol⟩
      · decide
  refine ⟨?_, fun h => (hplain _ h).1 rfl⟩
  cases hcons : utf8 scheme with
  | nil => simp [hcons] at hhead
  | cons first tail =>
      rw [hcons] at hhead hbytes hlower hplain
      have hfirst : isAlpha first = true := by simpa using hhead
      have hget : ∀ raw rest, getScheme raw [] (first :: tail ++ ':'.toUInt8 :: rest) =
          some (first :: tail, rest) := by
        intro raw rest
        rw [List.cons_append, getScheme, if_pos hfirst, List.nil_append,
          getScheme_append (List.cons_ne_nil _ _) fun b hb => by
            rw [(hbytes b (List.mem_cons_of_mem _ hb)).1, Bool.true_or]]
        rfl
      rw [parseURL, if_neg, if_neg (by simp), hget]
      · simp only [Option.bind_eq_bind, Option.bind_some, hlower]
        exact parseRest_authority viaRequest (List.cons_ne_nil _ _) hidBytes hsecretBytes
      · simp only [not_or, List.any_eq_true, not_exists, not_and]
        exact ⟨fun b hb => by simp [(hplain b hb).2], fun _ => List.cons_ne_nil _ _⟩

theorem parse_eq_parseURL {raw : List UInt8} (h : '#'.toUInt8 ∉ raw) :
    parse raw = (parseURL false raw).map fun url => { url with fragment := [] } := by
  rw [parse, cut_of_not_mem h]
  dsimp only
  cases parseURL false raw <;> rfl

end Text

end Encoding

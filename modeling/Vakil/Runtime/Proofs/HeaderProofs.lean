import Mathlib.Data.List.Forall2
import Vakil.Runtime.Proofs.MutationProofs

/-!
# Proofs: the headers that plugins are shown

A plugin is shown the names of all headers, in order, and the values that are visible ASCII. Any
other value is shown as the empty text, so it cannot be told from another such value, nor from an
empty one.
-/

namespace Vakil

variable {W : Type}

/-! ## Values -/

/-- `HeaderValue::from_bytes` takes all bytes but the control characters; a tab is fine. -/
def IsHeaderValue (value : Bytes) : Prop := ∀ b ∈ value, (32 ≤ b ∧ b ≠ 127) ∨ b = 9

/-- Visible ASCII, spaces and tabs: what `HeaderValue::to_str` can read. -/
def IsVisibleAscii (value : Bytes) : Prop := ∀ b ∈ value, (32 ≤ b ∧ b < 127) ∨ b = 9

/-- `value.to_str().unwrap_or("")`. -/
def shownText (value : Bytes) : Str := (headerToStr value).getD []

/-- No other value is shown as the same text. -/
def DeterminesValue (text : Str) (value : Bytes) : Prop :=
  ∀ value', IsHeaderValue value' → shownText value' = text → value' = value

theorem headerToStr_eq_some_iff {value : Bytes} {text : Str} :
    headerToStr value = some text ↔
      IsVisibleAscii value ∧ text = value.map fun b => Char.ofNat b.toNat := by
  have hall : (value.all fun b => (32 ≤ b && b < 127) || b == 9) = true ↔ IsVisibleAscii value := by
    simp [IsVisibleAscii]
  rw [← hall, headerToStr]
  split_ifs with h
  · rw [Option.some_inj, eq_comm, and_iff_right h]
  · exact iff_of_false nofun fun hread => h hread.1

theorem toNat_ofNat_byte (b : UInt8) : (Char.ofNat b.toNat).toNat = b.toNat := by
  have hlt : b.toNat < 256 := b.toNat_lt
  have hvalid : b.toNat.isValidChar := .inl (by omega)
  rw [Char.ofNat, dif_pos hvalid]
  rfl

theorem ofNat_byte_injective : Function.Injective fun b : UInt8 => Char.ofNat b.toNat := by
  intro b b' h
  have hnat : (Char.ofNat b.toNat).toNat = (Char.ofNat b'.toNat).toNat := congrArg Char.toNat h
  rw [toNat_ofNat_byte, toNat_ofNat_byte] at hnat
  exact UInt8.toNat_inj.mp hnat

/-- Different values that can be read are read as different texts. -/
theorem headerToStr_injective {value value' : Bytes} {text : Str}
    (h : headerToStr value = some text) (h' : headerToStr value' = some text) : value = value' := by
  obtain ⟨-, rfl⟩ := headerToStr_eq_some_iff.mp h
  obtain ⟨-, heq⟩ := headerToStr_eq_some_iff.mp h'
  exact ofNat_byte_injective.list_map heq

theorem headerToStr_of_visible {value : Bytes} (h : IsVisibleAscii value) :
    headerToStr value = some (shownText value) := by
  have hread := headerToStr_eq_some_iff.mpr ⟨h, rfl⟩
  rw [shownText, hread]
  rfl

/-- A value is shown as the empty text if it is empty or cannot be read. -/
theorem shownText_eq_nil_iff {value : Bytes} :
    shownText value = [] ↔ value = [] ∨ ¬ IsVisibleAscii value := by
  by_cases h : IsVisibleAscii value
  · have hread : shownText value = value.map fun b => Char.ofNat b.toNat :=
      (headerToStr_eq_some_iff.mp (headerToStr_of_visible h)).2
    rw [hread, List.map_eq_nil_iff]
    exact ⟨.inl, fun hnil => hnil.resolve_right (not_not_intro h)⟩
  · refine iff_of_true ?_ (.inr h)
    cases hread : headerToStr value with
    | none => rw [shownText, hread]; rfl
    | some text => exact absurd (headerToStr_eq_some_iff.mp hread).1 h

/-- Two values are shown alike if they are the same or both are shown as the empty text. -/
theorem shownText_eq_iff {value value' : Bytes} :
    shownText value = shownText value' ↔
      value = value' ∨ (shownText value = [] ∧ shownText value' = []) := by
  constructor
  · intro h
    by_cases hv : IsVisibleAscii value
    · by_cases hv' : IsVisibleAscii value'
      · exact .inl (headerToStr_injective (headerToStr_of_visible hv)
          ((headerToStr_of_visible hv').trans (congrArg some h.symm)))
      · have hnil := shownText_eq_nil_iff.mpr (.inr hv')
        exact .inr ⟨h.trans hnil, hnil⟩
    · have hnil := shownText_eq_nil_iff.mpr (.inr hv)
      exact .inr ⟨hnil, h.symm.trans hnil⟩
  · rintro (rfl | ⟨hnil, hnil'⟩)
    · rfl
    · rw [hnil, hnil']

/-- The text of a value determines it exactly if it is a text at all. -/
theorem determinesValue_shownText_iff {value : Bytes} :
    DeterminesValue (shownText value) value ↔ value ≠ [] ∧ IsVisibleAscii value := by
  rw [← not_iff_not, not_and_or, not_not, ← shownText_eq_nil_iff]
  constructor
  · intro h
    by_contra hne
    refine h fun value' _ heq => ?_
    exact (shownText_eq_iff.mp heq).resolve_right fun hnil => hne hnil.2
  · intro hnil hdetermines
    rw [hnil] at hdetermines
    -- both the empty value and a single byte of Latin-1 are shown as the empty text
    have hempty : ([] : Bytes) = value := hdetermines [] (by simp [IsHeaderValue]) (by rfl)
    have hbyte : ([0xE9] : Bytes) = value :=
      hdetermines [0xE9] (by simp [IsHeaderValue]) (shownText_eq_nil_iff.mpr (.inr (by
        simp [IsVisibleAscii])))
    rw [← hempty] at hbyte
    cases hbyte

/-- A text made of bytes below 128 is these bytes. -/
theorem asBytes_of_ascii {value : Bytes} (h : ∀ b ∈ value, b < 128) :
    asBytes (value.map fun b => Char.ofNat b.toNat) = value := by
  unfold asBytes
  rw [List.flatMap_map]
  induction value with
  | nil => rfl
  | cons b value ih =>
    have hb : b.toNat < 128 := h b List.mem_cons_self
    have hchar : (Char.ofNat b.toNat).toNat < 128 := by
      rw [toNat_ofNat_byte]
      exact hb
    have hencode : String.utf8EncodeChar (Char.ofNat b.toNat) = [b] := by
      have hsize : (Char.ofNat b.toNat).utf8Size = 1 := by
        rw [Char.utf8Size_eq_one_iff, UInt32.le_iff_toNat_le]
        exact Nat.le_of_lt_succ hchar
      rw [String.utf8EncodeChar_eq_singleton hsize]
      have hcode : (Char.ofNat b.toNat).val.toNat = b.toNat := toNat_ofNat_byte b
      congr 1
      rw [← UInt8.toNat_inj, UInt32.toNat_toUInt8, hcode]
      exact Nat.mod_eq_of_lt b.toNat_lt
    rw [List.flatMap_cons, hencode, ih fun b hb => h b (List.mem_cons_of_mem _ hb)]
    rfl

/-- The text that a value is shown as stands for the value exactly if it can be read. -/
theorem asBytes_shownText_iff {value : Bytes} :
    asBytes (shownText value) = value ↔ IsVisibleAscii value := by
  by_cases h : IsVisibleAscii value
  · refine iff_of_true ?_ h
    have hshown : shownText value = value.map fun b => Char.ofNat b.toNat :=
      (headerToStr_eq_some_iff.mp (headerToStr_of_visible h)).2
    rw [hshown]
    refine asBytes_of_ascii fun b hb => ?_
    rcases h b hb with ⟨-, hlt⟩ | rfl
    · exact UInt8.lt_trans hlt (by decide)
    · decide
  · refine iff_of_false (fun heq => h ?_) h
    rw [shownText_eq_nil_iff.mpr (.inr h)] at heq
    rw [← heq]
    exact fun b hb => absurd hb List.not_mem_nil

/-! ## Header lists -/

/-- A header list as the callbacks are shown it. -/
def headerText (headers : List (Str × Bytes)) : Headers :=
  headers.map fun (name, value) => ⟨name, (headerToStr value).getD []⟩

/-- Two header lists are shown alike if they have the same names, in order, and values that are
shown alike. -/
theorem headerText_eq_iff {headers headers' : List (Str × Bytes)} :
    headerText headers = headerText headers' ↔
      List.Forall₂ (fun header header' => header.1 = header'.1 ∧
        (header.2 = header'.2 ∨ (shownText header.2 = [] ∧ shownText header'.2 = [])))
        headers headers' := by
  have hshown : ∀ header header' : Str × Bytes,
      (⟨header.1, shownText header.2⟩ : KVPair) = ⟨header'.1, shownText header'.2⟩ ↔
        header.1 = header'.1 ∧
          (header.2 = header'.2 ∨ (shownText header.2 = [] ∧ shownText header'.2 = [])) := by
    intro header header'
    rw [KVPair.mk.injEq, shownText_eq_iff]
  unfold headerText
  rw [← List.forall₂_eq_eq_eq, List.forall₂_map_left_iff, List.forall₂_map_right_iff]
  exact ⟨List.Forall₂.imp fun header header' => (hshown header header').mp,
    List.Forall₂.imp fun header header' => (hshown header header').mpr⟩

theorem headerText_names (headers : List (Str × Bytes)) :
    (headerText headers).map (·.name) = headers.map Prod.fst := by
  rw [headerText, List.map_map]
  rfl

theorem headerText_values_iff {headers : List (Str × Bytes)} :
    List.Forall₂ (fun entry header => DeterminesValue entry.value header.2) (headerText headers)
        headers ↔
      ∀ header ∈ headers, header.2 ≠ [] ∧ IsVisibleAscii header.2 := by
  unfold headerText
  rw [List.forall₂_map_left_iff, List.forall₂_same]
  exact forall₂_congr fun header _ => determinesValue_shownText_iff

/-- If every value is read as a text of its own, no other header list is shown alike. -/
theorem eq_of_headerText_eq {headers headers' : List (Str × Bytes)}
    (h : ∀ header ∈ headers, header.2 ≠ [] ∧ IsVisibleAscii header.2)
    (heq : headerText headers' = headerText headers) : headers' = headers := by
  rw [headerText_eq_iff] at heq
  rw [← List.forall₂_eq_eq_eq]
  induction heq with
  | nil => exact .nil
  | cons hheader _ ih =>
    obtain ⟨hne, hvisible⟩ := h _ List.mem_cons_self
    refine .cons ?_ (ih fun header hmem => h header (List.mem_cons_of_mem _ hmem))
    refine Prod.ext hheader.1 (hheader.2.resolve_right fun hnil => ?_)
    exact (shownText_eq_nil_iff.mp hnil.2).elim hne (not_not_intro hvisible)

/-! ## Header lists that the modules leave alone -/

/-- The header list that the modules are shown stands for the one received exactly if every value can be
read. -/
theorem toWire_headerText_iff {headers : List (Str × Bytes)} :
    (headerText headers).toWire = headers ↔ ∀ header ∈ headers, IsVisibleAscii header.2 := by
  have hentry : ∀ header : Str × Bytes,
      (header.1, asBytes (shownText header.2)) = header ↔ IsVisibleAscii header.2 := by
    intro header
    rw [Prod.ext_iff, and_iff_right rfl, asBytes_shownText_iff]
  have hwire : (headerText headers).toWire =
      headers.map fun header => (header.1, asBytes (shownText header.2)) := by
    unfold headerText Headers.toWire
    rw [List.map_map]
    rfl
  rw [hwire]
  nth_rewrite 2 [← List.map_id headers]
  rw [List.map_inj_left]
  exact forall₂_congr fun header _ => hentry header

theorem filter_eq_toWire_iff {name : Str} {headers : List (Str × Bytes)} :
    headers.filter (·.1 ≠ name) = (headerText headers).toWire ↔
      headers.filter (·.1 ≠ name) = headers ∧ ∀ header ∈ headers, IsVisibleAscii header.2 := by
  rw [← toWire_headerText_iff]
  constructor
  · intro h
    have hlength : (headers.filter (·.1 ≠ name)).length = headers.length := by
      rw [h, Headers.toWire, headerText, List.length_map, List.length_map]
    have hall : headers.filter (·.1 ≠ name) = headers :=
      List.filter_sublist.eq_of_length hlength
    exact ⟨hall, h.symm.trans hall⟩
  · rintro ⟨hall, hwire⟩
    exact hall.trans hwire.symm

/-- **Header lists that are left as they were shown** are what is forwarded exactly if every value can be
read and the client's `Host` is the one that is set anyway. -/
theorem insertValue_eq_toWire_iff {name : Str} {value : Bytes} (hvalue : value ≠ [])
    {headers : List (Str × Bytes)} :
    insertValue name value headers = (headerText headers).toWire ↔
      insertValue name value headers = headers ∧ ∀ header ∈ headers, IsVisibleAscii header.2 := by
  induction headers with
  | nil => exact iff_of_false (List.cons_ne_nil _ _) fun h => List.cons_ne_nil _ _ h.1
  | cons header headers ih =>
    have hcons : (headerText (header :: headers)).toWire =
        (header.1, asBytes (shownText header.2)) :: (headerText headers).toWire := rfl
    rw [hcons, insertValue]
    by_cases hname : header.1 = name
    · have hread : value = asBytes (shownText header.2) ↔
          value = header.2 ∧ IsVisibleAscii header.2 := by
        constructor
        · intro h
          have hvisible : IsVisibleAscii header.2 := by
            by_contra hno
            rw [shownText_eq_nil_iff.mpr (.inr hno)] at h
            exact hvalue h
          exact ⟨h.trans (asBytes_shownText_iff.mpr hvisible), hvisible⟩
        · rintro ⟨rfl, hvisible⟩
          exact (asBytes_shownText_iff.mpr hvisible).symm
      have hfirst : (name, value) = header ↔ value = header.2 := by
        rw [Prod.ext_iff, and_iff_right hname.symm]
      rw [if_pos hname, List.cons.injEq, List.cons.injEq, Prod.mk.injEq, and_iff_right hname.symm,
        filter_eq_toWire_iff, hread, hfirst, List.forall_mem_cons]
      tauto
    · have hread : IsVisibleAscii header.2 ↔ asBytes (shownText header.2) = header.2 :=
        asBytes_shownText_iff.symm
      rw [if_neg hname, List.cons.injEq, List.cons.injEq, ih, and_iff_right rfl, List.forall_mem_cons,
        hread]
      have hsame : header = (header.1, asBytes (shownText header.2)) ↔
          asBytes (shownText header.2) = header.2 := by
        rw [Prod.ext_iff, and_iff_right rfl]
        exact eq_comm
      rw [hsame]
      tauto

/-! ## Requests -/

/-- The entries that the plugins see are the headers of the request as they are: the names are there
in order, each text determines its value, and no request with other headers is shown alike. -/
structure ShowsHeaders (seen : Headers) (req : RequestHeader) : Prop where
  names : seen.map (·.name) = req.headers.map Prod.fst
  values : List.Forall₂ (fun entry header => DeterminesValue entry.value header.2) seen req.headers
  distinct : ∀ req' : RequestHeader, (∀ header ∈ req'.headers, IsHeaderValue header.2) →
    req'.headers ≠ req.headers → Headers.ofRequestHeader req' ≠ seen

theorem showsHeaders_ofRequestHeader_iff {req : RequestHeader} :
    ShowsHeaders (Headers.ofRequestHeader req) req ↔
      ∀ header ∈ req.headers, header.2 ≠ [] ∧ IsVisibleAscii header.2 := by
  constructor
  · intro h
    exact headerText_values_iff.mp h.values
  · intro h
    exact ⟨headerText_names req.headers, headerText_values_iff.mpr h,
      fun req' _ hne heq => hne (eq_of_headerText_eq h heq)⟩

/-- **Plugins see the headers as they are exactly if all values are texts.** The entries are always
the headers, by name and in order. They determine the headers' values, and no request with other
headers is shown alike, exactly if every value is visible ASCII and not empty. -/
theorem earlyRequestFilter_showsHeaders_iff (env : HttpEnv) (connectionId streamId : ID)
    (s : HttpState W) :
    ∃ seen, (earlyRequestFilter env connectionId streamId s).ctx.requestHeaders = some seen ∧
      seen.map (·.name) = s.session.reqHeader.headers.map Prod.fst ∧
      (ShowsHeaders seen s.session.reqHeader ↔
        ∀ header ∈ s.session.reqHeader.headers, header.2 ≠ [] ∧
          ∀ b ∈ header.2, (32 ≤ b ∧ b < 127) ∨ b = 9) :=
  ⟨Headers.ofRequestHeader s.session.reqHeader, rfl, headerText_names _,
    showsHeaders_ofRequestHeader_iff⟩

/-- A request with one header. -/
def requestWith (name : Str) (value : Bytes) : RequestHeader where
  method := "GET".toList
  uri := { scheme := none, authority := none, path := "/".toList, query := none }
  version := .http11
  headers := [(name, value)]

/-- A value in Latin-1 and an empty one are shown alike. -/
theorem latin1Value_shown_empty :
    (∀ header ∈ (requestWith "x-role".toList [0xE9]).headers, IsHeaderValue header.2) ∧
      (∀ header ∈ (requestWith "x-role".toList []).headers, IsHeaderValue header.2) ∧
      (requestWith "x-role".toList []).headers ≠ (requestWith "x-role".toList [0xE9]).headers ∧
      Headers.ofRequestHeader (requestWith "x-role".toList []) =
        Headers.ofRequestHeader (requestWith "x-role".toList [0xE9]) ∧
      ¬ ShowsHeaders (Headers.ofRequestHeader (requestWith "x-role".toList [0xE9]))
        (requestWith "x-role".toList [0xE9]) := by
  have hempty : ∀ header ∈ (requestWith "x-role".toList []).headers, IsHeaderValue header.2 := by
    simp [requestWith, IsHeaderValue]
  have hne : (requestWith "x-role".toList []).headers ≠
      (requestWith "x-role".toList [0xE9]).headers := by
    decide
  have hsame : Headers.ofRequestHeader (requestWith "x-role".toList []) =
      Headers.ofRequestHeader (requestWith "x-role".toList [0xE9]) := by
    rfl
  refine ⟨by simp [requestWith, IsHeaderValue], hempty, hne, hsame, ?_⟩
  intro h
  exact h.distinct _ hempty hne hsame

end Vakil

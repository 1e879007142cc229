import StarFreight.Oracle.Http
import StarFreight.Proofs.Config.IdList
/-!
# Oracle — what a query tells

A list of numbers is sent to an oracle in one text and read from the settings in
another; what is written for the one is read back by the other
(`parseIdList_joinIds`). A query tells the list that is to be avoided: what is written
in a query is read back as forms are read (`decodeForm_encodeText`), and an ampersand
stands in it only where something else begins (`queryText_avoid`).
-/

namespace StarFreight

namespace OracleCall

variable {ids ids' : List SystemId} {s t : String} {call call' : OracleCall}

/-! ## Lists in a text -/

theorem not_padding_of_mem_integerChars {n : Int} {c : Char} (h : c ∈ Decimal.integerChars n) :
    Text.isBlank c = false ∧ c ≠ ',' := by
  rcases Decimal.of_mem_integerChars h with rfl | ⟨hlow, hhigh⟩
  · decide
  · constructor
    · simp only [Text.isBlank, Bool.or_eq_false_iff, Bool.and_eq_false_iff, decide_eq_false_iff_not,
        beq_eq_false_iff_ne]
      omega
    · rintro rfl
      exact absurd hlow (by decide)

theorem tokens_integerChars (n : Int) :
    Text.tokens (Decimal.integerChars n) = [Decimal.integerChars n] := by
  have hne : Decimal.integerChars n ≠ [] := by
    unfold Decimal.integerChars
    split
    · exact List.cons_ne_nil _ _
    · exact fun h => Decimal.digits_ne_nil _ (List.map_eq_nil_iff.mp h)
  rw [Text.tokens_of_not_mem fun h => (not_padding_of_mem_integerChars h).2 rfl,
    Text.trimChars_eq_self fun c hc => (not_padding_of_mem_integerChars hc).1]
  simp [hne]

/-- **The tokens of a list that is written are its numbers.** -/
theorem listTokens_joinIds (ids : List SystemId) :
    listTokens (joinIds ids) = ids.map Decimal.integerText := by
  have htokens : Text.tokens (List.intercalate [','] (ids.map Decimal.integerChars)) =
      ids.map Decimal.integerChars := by
    induction ids with
    | nil => rfl
    | cons n ids ih =>
      cases ids with
      | nil => simpa using tokens_integerChars n
      | cons m ids =>
        rw [List.map_cons, List.map_cons, List.intercalate_cons_cons, List.append_assoc,
          List.singleton_append, Text.tokens_append_comma, tokens_integerChars, ← List.map_cons,
          ih]
        rfl
  have hchars : (joinIds ids).toList =
      List.intercalate [','] (ids.map Decimal.integerChars) := by
    rw [joinIds, String.toList_intercalate, List.map_map]
    congr 1
    exact List.map_congr_left fun n _ => String.toList_ofList
  rw [listTokens_eq, hchars, htokens, List.map_map]
  rfl

/-- **Lists of 64-bit integers are read back.** -/
theorem parseIdList_joinIds
    (h : ∀ n ∈ ids, -9223372036854775808 ≤ n ∧ n ≤ 9223372036854775807) :
    parseIdList (joinIds ids) = .ok ids := by
  rw [parseIdList_eq_ok_iff, listTokens_joinIds, List.forall₂_map_left_iff, List.forall₂_same]
  intro n hn
  refine ⟨?_, h n hn⟩
  rw [Decimal.integerText, String.toList_ofList]
  exact Decimal.writesInteger_integerChars n

theorem joinIds_injective : Function.Injective joinIds := by
  intro ids ids' h
  have htokens := congrArg listTokens h
  rw [listTokens_joinIds, listTokens_joinIds] at htokens
  exact Decimal.integerText_injective.list_map htokens

/-! ## Texts in a query -/

/-- The bytes that are written in a query, as forms are read: a plus is a blank. -/
def decodeForm (cs : List Char) : List UInt8 :=
  Text.Percent.decode (cs.map fun c => if c = '+' then ' ' else c)

theorem decode_cons {c : Char} (h : c ≠ '%') (cs : List Char) :
    Text.Percent.decode (c :: cs) = Text.Percent.bytesOf c ++ Text.Percent.decode cs := by
  rw [Text.Percent.decode.eq_def]
  split <;> simp_all

/-- A byte that stands for itself is no mark of a query. -/
theorem of_isPlainByte {n : Nat} (h : isPlainByte n = true) :
    Char.ofNat n ≠ '+' ∧ Char.ofNat n ≠ '%' ∧ Char.ofNat n ≠ '&' ∧
      Text.Percent.bytesOf (Char.ofNat n) = [UInt8.ofNat n] := by
  have hsmall : n < 123 := by
    simp only [isPlainByte, Bool.or_eq_true, Bool.and_eq_true, decide_eq_true_eq,
      beq_iff_eq] at h
    omega
  have hall : ∀ n < 123, isPlainByte n = true → Char.ofNat n ≠ '+' ∧ Char.ofNat n ≠ '%' ∧
      Char.ofNat n ≠ '&' ∧ Text.Percent.bytesOf (Char.ofNat n) = [UInt8.ofNat n] := by
    decide +kernel
  exact hall n hsmall h

theorem of_mem_percent {byte : UInt8} {c : Char} (h : c ∈ Text.Percent.encodeByte byte) :
    c ≠ '+' ∧ c ≠ '&' := by
  have hdigit : ∀ m < 16, (Text.hexDigit m).toUpper ≠ '+' ∧ (Text.hexDigit m).toUpper ≠ '&' := by
    decide
  have hbyte : byte.toNat < 256 := byte.toNat_lt
  simp only [Text.Percent.encodeByte, List.mem_cons, List.not_mem_nil, or_false] at h
  rcases h with rfl | rfl | rfl
  · decide
  · exact hdigit _ (by omega)
  · exact hdigit _ (by omega)

/-- **A byte that is written in a query is read back.** -/
theorem decodeForm_encodeByte (byte : UInt8) (cs : List Char) :
    decodeForm (encodeByte byte ++ cs) = byte :: decodeForm cs := by
  simp only [encodeByte]
  split
  · next h =>
    obtain rfl : byte = 32 := UInt8.toNat_inj.mp h
    have hblank : ' ' ≠ '%' := by decide
    have hbytes : Text.Percent.bytesOf ' ' = [32] := by decide +kernel
    rw [decodeForm, List.singleton_append, List.map_cons, if_pos rfl, decode_cons hblank, hbytes]
    rfl
  · split
    · next h =>
      obtain ⟨hplus, hpercent, -, hbytes⟩ := of_isPlainByte h
      rw [decodeForm, List.singleton_append, List.map_cons, if_neg hplus, decode_cons hpercent,
        hbytes, UInt8.ofNat_toNat]
      rfl
    · have hsame : (Text.Percent.encodeByte byte).map (fun c => if c = '+' then ' ' else c) =
          Text.Percent.encodeByte byte :=
        (List.map_congr_left fun c hc => if_neg (of_mem_percent hc).1).trans (List.map_id' _)
      rw [decodeForm, List.map_append, hsame, Text.Percent.decode_encodeByte]
      rfl

theorem decodeForm_encodeText (s : String) :
    decodeForm (encodeText s).toList = s.toUTF8.toList := by
  have hbytes : ∀ bytes : List UInt8, decodeForm (bytes.flatMap encodeByte) = bytes := by
    intro bytes
    induction bytes with
    | nil => rfl
    | cons byte bytes ih => rw [List.flatMap_cons, decodeForm_encodeByte, ih]
  rw [encodeText, String.toList_ofList, hbytes]

/-- The bytes of a list are those of the array. -/
theorem toList_byteArray (bytes : ByteArray) : bytes.toList = bytes.data.toList := by
  have hloop : ∀ (i : Nat) (read : List UInt8), ByteArray.toList.loop bytes i read =
      read.reverse ++ bytes.data.toList.drop i := by
    intro i read
    induction i, read using ByteArray.toList.loop.induct bytes with
    | case1 i read hi ih =>
      have hlt : i < bytes.data.toList.length := hi
      have hbyte : bytes.get! i = bytes.data.toList[i] :=
        (getElem!_pos bytes.data i hi).trans (Array.getElem_toList hi).symm
      rw [ByteArray.toList.loop, if_pos hi, ih, List.drop_eq_getElem_cons hlt, hbyte,
        List.reverse_cons, List.append_assoc, List.singleton_append]
    | case2 i read hi =>
      rw [ByteArray.toList.loop, if_neg hi, List.drop_eq_nil_of_le (Nat.le_of_not_lt hi),
        List.append_nil]
  rw [ByteArray.toList, hloop]
  rfl

theorem encodeText_injective : Function.Injective encodeText := by
  intro s t h
  have hbytes := congrArg (fun text : String => decodeForm text.toList) h
  simp only [decodeForm_encodeText, toList_byteArray] at hbytes
  exact String.toByteArray_inj.mp (ByteArray.ext (Array.toList_inj.mp hbytes))

theorem ampersand_not_mem_encodeText (s : String) : '&' ∉ (encodeText s).toList := by
  rw [encodeText, String.toList_ofList, List.mem_flatMap]
  rintro ⟨byte, -, h⟩
  simp only [encodeByte] at h
  split at h
  · revert h
    decide
  · split at h
    · next hplain => exact (of_isPlainByte hplain).2.2.1 (List.mem_singleton.mp h).symm
    · exact (of_mem_percent h).2 rfl

/-! ## Queries -/

/-- What is asked about systems to be avoided. -/
def avoidText (ids : List SystemId) : String :=
  if ids.isEmpty then "" else "&avoid=" ++ encodeText (joinIds ids)

/-- What is to be avoided stands behind the first ampersand. -/
theorem dropWhile_queryText (call : OracleCall) :
    call.queryText.toList.dropWhile (· ≠ '&') = (avoidText call.avoid).toList := by
  have hfront : ∀ c ∈ ("flag=" ++ encodeText call.flag).toList, decide (c ≠ '&') = true := by
    intro c hc
    rw [decide_eq_true_eq]
    rintro rfl
    rcases List.mem_append.mp (String.toList_append ▸ hc) with hflag | hflag
    · revert hflag
      decide
    · exact ampersand_not_mem_encodeText _ hflag
  rw [show call.queryText = "flag=" ++ encodeText call.flag ++ avoidText call.avoid from rfl,
    String.toList_append, List.dropWhile_append_of_pos hfront, avoidText]
  split
  · rfl
  · rw [String.toList_append]
    rfl

theorem avoidText_injective : Function.Injective avoidText := by
  intro ids ids' h
  have hfilled : ∀ l : List SystemId, "&avoid=" ++ encodeText (joinIds l) ≠ "" := by
    intro l hl
    have hchars := congrArg String.toList hl
    rw [String.toList_append] at hchars
    cases hchars
  unfold avoidText at h
  split at h <;> split at h
  · next hids hids' => rw [List.isEmpty_iff.mp hids, List.isEmpty_iff.mp hids']
  · exact absurd h.symm (hfilled _)
  · exact absurd h (hfilled _)
  · have hchars := congrArg String.toList h
    rw [String.toList_append, String.toList_append] at hchars
    have hsame := String.toList_inj.mp (List.append_cancel_left hchars)
    exact joinIds_injective (encodeText_injective hsame)

/-- **A query tells what is to be avoided.** -/
theorem avoid_eq_of_queryText_eq (h : call.queryText = call'.queryText) :
    call.avoid = call'.avoid := by
  have hcut := congrArg (fun query : String => query.toList.dropWhile (· ≠ '&')) h
  simp only [dropWhile_queryText] at hcut
  exact avoidText_injective (String.toList_inj.mp hcut)

theorem withQuery_injective (text : String) : Function.Injective (withQuery text) := by
  intro query query' h
  have hchars := String.ofList_injective h
  exact String.toList_inj.mp (List.append_cancel_left (List.append_cancel_right hchars))

/-- **So does the address that is asked**, between given systems. -/
theorem avoid_eq_of_address_eq {base sent : String} (horigin : call.origin = call'.origin)
    (hdestination : call.destination = call'.destination) (h : call.address base = .ok sent)
    (h' : call'.address base = .ok sent) : call.avoid = call'.avoid := by
  have hroute : call.routeText base = call'.routeText base := by
    rw [routeText, horigin, hdestination, routeText]
  rw [address, hroute] at h
  rw [address] at h'
  cases hservice : ServiceAddress.of (call'.routeText base) with
  | reachable text =>
    rw [hservice] at h h'
    have hquery := (Except.ok.inj h).trans (Except.ok.inj h').symm
    exact avoid_eq_of_queryText_eq (withQuery_injective text hquery)
  | unreadable => rw [hservice] at h; cases h
  | hostless text => rw [hservice] at h; cases h
  | foreign text => rw [hservice] at h; cases h

/-- **Lists of numbers are told by their texts and read from them**, however many blanks
and commas stand where a comma or an end is, unless a token is no number. -/
theorem idLists_roundTrip :
    (∀ ids : List SystemId, (∀ n ∈ ids, -9223372036854775808 ≤ n ∧ n ≤ 9223372036854775807) →
      parseIdList (joinIds ids) = .ok ids) ∧
    Function.Injective joinIds ∧
    (∀ call call' : OracleCall, call.avoid ≠ call'.avoid →
      call.queryText ≠ call'.queryText ∧
        (call.origin = call'.origin → call.destination = call'.destination →
          ∀ base sent, call.address base = .ok sent → call'.address base ≠ .ok sent)) ∧
    (∀ front pad back : String, Text.IsSeam front.toList back.toList →
      Text.IsPadding pad.toList →
        parseIdList (front ++ pad ++ back) = parseIdList (front ++ back)) ∧
    (∀ text ids, parseIdList text = .ok ids ↔
      List.Forall₂ Denotes (listTokens text) ids) ∧
    ∀ text token, parseIdList text = .error token ↔
      ∃ before after, listTokens text = before ++ token :: after ∧
        (∀ t ∈ before, ∃ n, Denotes t n) ∧ ¬ ∃ n, Denotes token n := by
  refine ⟨fun ids => parseIdList_joinIds, joinIds_injective, fun call call' h => ⟨?_, ?_⟩,
    fun front pad back => parseIdList_padded, fun text ids => parseIdList_eq_ok_iff,
    fun text token => parseIdList_eq_error_iff⟩
  · exact fun hquery => h (avoid_eq_of_queryText_eq hquery)
  · intro horigin hdestination base sent hsent hsent'
    exact h (avoid_eq_of_address_eq horigin hdestination hsent hsent')

/-- The least and the greatest number are read back, and the next one is refused. -/
theorem idLists_roundTrip_extremes :
    (∀ n ∈ ([-9223372036854775808, 0, 9223372036854775807] : List Int),
      -9223372036854775808 ≤ n ∧ n ≤ 9223372036854775807) ∧
    parseIdList (joinIds [-9223372036854775808, 0, 9223372036854775807]) =
      .ok [-9223372036854775808, 0, 9223372036854775807] ∧
    Text.IsSeam "1,".toList "-2".toList ∧ Text.IsPadding " ,\t".toList ∧
    parseIdList ("1," ++ " ,\t" ++ "-2") = parseIdList ("1," ++ "-2") ∧
    parseIdList "1, 9223372036854775808,x" = .error "9223372036854775808" ∧
    ∃ before after, listTokens "1, 9223372036854775808,x" =
        before ++ "9223372036854775808" :: after ∧
      (∀ t ∈ before, ∃ n, Denotes t n) ∧ ¬ ∃ n, Denotes "9223372036854775808" n := by
  have hrange : ∀ n ∈ ([-9223372036854775808, 0, 9223372036854775807] : List Int),
      -9223372036854775808 ≤ n ∧ n ≤ 9223372036854775807 := by
    intro n hn
    simp only [List.mem_cons, List.not_mem_nil, or_false] at hn
    omega
  have hseam : Text.IsSeam "1,".toList "-2".toList := .inr (.inr (.inl rfl))
  have hpad : Text.IsPadding [' ', ',', '\t'] := by
    simp only [Text.IsPadding, List.mem_cons, List.not_mem_nil, or_false, forall_eq_or_imp,
      forall_eq]
    decide
  have hrefused : parseIdList "1, 9223372036854775808,x" = .error "9223372036854775808" := by
    decide +kernel
  exact ⟨hrange, idLists_roundTrip.1 _ hrange, hseam, hpad,
    idLists_roundTrip.2.2.2.1 _ _ _ hseam hpad, hrefused,
    (idLists_roundTrip.2.2.2.2.2 _ _).mp hrefused⟩

end OracleCall

end StarFreight

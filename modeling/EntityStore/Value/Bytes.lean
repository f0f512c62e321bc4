/-! # Bytes

Values that are not text hold plain bytes.  Two of them are equal if they have the same bytes in
the same order, and there is one way to decide that.
-/

instance (priority := 2000) ByteArray.decideSameBytes : DecidableEq ByteArray :=
  ByteArray.instDecidableEq

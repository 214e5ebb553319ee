/-! Text measured in bytes, and text brought to a width. -/
namespace TraceTally.Text

/-- The bytes that characters take. -/
def byteCount (cs : List Char) : Nat := cs.foldl (fun n c => n + c.utf8Size) 0

def copies (n : Nat) (c : Char) : String := String.ofList (List.replicate n c)

/-- `s` behind as many copies of `c` as bring it to `width` characters. A longer `s` stays whole. -/
def padLeft (width : Nat) (c : Char) (s : String) : String := copies (width - s.length) c ++ s

end TraceTally.Text

import CodeChunks.Digest.Blake3
import CodeChunks.Text.Blank

/-!
# Content digests

Two chunks have the same content when their texts agree up to blanks at the ends. The digest of
the trimmed text stands for the content.
-/

namespace CodeChunks.Digest

def ofText (text : List Char) : String :=
  blake3 (String.ofList (Text.trim text)).toUTF8.toList

end CodeChunks.Digest

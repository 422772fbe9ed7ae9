import Libvmm.Util.Bitarray
import Libvmm.Virtq
import Libvmm.Ring
import Libvmm.Block.CmdStore
import Libvmm.Block.DataRegion
import Libvmm.Block.Device
import Libvmm.Block.NotifyRun
import Libvmm.Net.Emul
import Libvmm.Net.Rx
import Libvmm.Net.RxRun
import Libvmm.Net.TxRun
import Libvmm.Net.Run
import Libvmm.ChainWalks
import Libvmm.Mmio
import Libvmm.Uio.Blk
import Libvmm.Uio.Net
